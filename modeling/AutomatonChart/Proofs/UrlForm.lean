import Mathlib.Data.List.DropRight
import AutomatonChart.Service.Config

/-! # The form of a service URL

A URL is kept without blanks at its ends and without slashes behind it. The blanks go first: one
that stands before the slashes at the end is kept, and is the last character then. Such a URL is
not what it is read as again; every other one is.
-/
namespace AutomatonChart

namespace Text
variable {p : Char → Bool} {c : Char} {cs : List Char} {s : String}

theorem dropTrailing_eq_rdropWhile (p : Char → Bool) (cs : List Char) :
    dropTrailing p cs = cs.rdropWhile p := rfl

theorem getLast?_dropTrailing (h : (dropTrailing p cs).getLast? = some c) : p c = false := by
  have hne : cs.rdropWhile p ≠ [] := by
    rintro hnil
    rw [dropTrailing_eq_rdropWhile, hnil] at h
    cases h
  have hlast := List.rdropWhile_last_not p cs hne
  rw [dropTrailing_eq_rdropWhile, List.getLast?_eq_some_getLast hne] at h
  rw [Option.some.inj h] at hlast
  exact Bool.eq_false_iff.mpr hlast

theorem dropTrailing_eq_self (h : ∀ c, cs.getLast? = some c → p c = false) :
    dropTrailing p cs = cs := by
  apply List.rdropWhile_eq_self_iff.mpr
  intro hne
  rw [h _ (List.getLast?_eq_some_getLast hne)]
  exact Bool.false_ne_true

theorem dropTrailing_append_replicate (hc : p c = true) (n : Nat) :
    dropTrailing p (cs ++ List.replicate n c) = dropTrailing p cs := by
  have hdropped : ∀ a ∈ List.replicate n c, p a = true := by
    intro a ha
    rw [List.eq_of_mem_replicate ha, hc]
  rw [dropTrailing, List.reverse_append, List.reverse_replicate,
    List.dropWhile_append_of_pos hdropped]
  rfl

theorem dropTrailing_append_dropped (p : Char → Bool) (cs : List Char) :
    ∃ dropped, (∀ c ∈ dropped, p c = true) ∧ cs = dropTrailing p cs ++ dropped :=
  ⟨cs.rtakeWhile p, fun _ => List.mem_rtakeWhile_imp, List.rdropWhile_append_rtakeWhile.symm⟩

def BeginsBlank (s : String) : Prop := ∃ c, s.toList.head? = some c ∧ isBlankChar c = true

def EndsBlank (s : String) : Prop := ∃ c, s.toList.getLast? = some c ∧ isBlankChar c = true

theorem toList_trim (s : String) :
    (trim s).toList = dropTrailing isBlankChar (s.toList.dropWhile isBlankChar) :=
  String.toList_ofList

theorem not_endsBlank_trim (s : String) : ¬EndsBlank (trim s) := by
  rintro ⟨c, hlast, hblank⟩
  rw [toList_trim] at hlast
  rw [getLast?_dropTrailing hlast] at hblank
  cases hblank

theorem dropWhile_of_not_beginsBlank (h : ¬BeginsBlank s) :
    s.toList.dropWhile isBlankChar = s.toList := by
  cases hs : s.toList with
  | nil => rfl
  | cons c rest =>
    have hc : ¬isBlankChar c = true := fun hc => h ⟨c, by rw [hs]; rfl, hc⟩
    rw [List.dropWhile_cons_of_neg hc]

theorem trim_prefix (h : ¬BeginsBlank s) : (trim s).toList <+: s.toList := by
  rw [toList_trim, dropWhile_of_not_beginsBlank h]
  exact List.rdropWhile_prefix _ _

theorem trim_eq_self (hfront : ¬BeginsBlank s) (hend : ¬EndsBlank s) : trim s = s := by
  apply String.toList_inj.mp
  rw [toList_trim, dropWhile_of_not_beginsBlank hfront]
  exact dropTrailing_eq_self fun c hc => Bool.eq_false_iff.mpr fun hblank => hend ⟨c, hc, hblank⟩

end Text

namespace Config
variable {raw url : String} {c : Config}

theorem toList_trimUrl (raw : String) :
    (trimUrl raw).toList = Text.dropTrailing (· = '/') (Text.trim raw).toList :=
  String.toList_ofList

theorem normalizeUrl_eq_ok :
    normalizeUrl raw = .ok url ↔ trimUrl raw = url ∧ hasScheme url = true := by
  unfold normalizeUrl
  by_cases hempty : (trimUrl raw).isEmpty = true
  · have hnone : hasScheme (trimUrl raw) = false := by
      rw [String.isEmpty_iff.mp hempty]
      rfl
    simp only [hempty, if_true]
    refine ⟨nofun, ?_⟩
    rintro ⟨rfl, hscheme⟩
    rw [hnone] at hscheme
    cases hscheme
  · simp only [hempty]
    cases hscheme : hasScheme (trimUrl raw) with
    | true =>
      simp only [if_true, Bool.false_eq_true, if_false, Except.ok.injEq]
      exact ⟨fun h => ⟨h, h ▸ hscheme⟩, fun h => h.1⟩
    | false =>
      refine ⟨nofun, ?_⟩
      rintro ⟨rfl, hagain⟩
      rw [hscheme] at hagain
      cases hagain

theorem not_beginsBlank_of_hasScheme (h : hasScheme url = true) : ¬Text.BeginsBlank url := by
  rintro ⟨c, hc, hblank⟩
  have hhead : url.toList.head? = some 'h' := by
    rcases Bool.or_eq_true_iff.mp h with hscheme | hscheme <;>
    · obtain ⟨rest, hrest⟩ := List.isPrefixOf_iff_prefix.mp hscheme
      rw [← hrest]
      rfl
  rw [hhead] at hc
  obtain rfl := Option.some.inj hc
  revert hblank
  decide

theorem getLast?_trimUrl_ne (raw : String) : (trimUrl raw).toList.getLast? ≠ some '/' := by
  intro hlast
  rw [toList_trimUrl] at hlast
  have hkept := Text.getLast?_dropTrailing hlast
  simp at hkept

theorem trimUrl_prefix_trim (url : String) : (trimUrl url).toList <+: (Text.trim url).toList := by
  rw [toList_trimUrl]
  exact List.rdropWhile_prefix _ _

/-- A text without a blank in front and a slash at the end is kept just if it does not end in a
blank. -/
theorem trimUrl_eq_self_iff (hfront : ¬Text.BeginsBlank url)
    (hslash : url.toList.getLast? ≠ some '/') : trimUrl url = url ↔ ¬Text.EndsBlank url := by
  constructor
  · intro hself hend
    have hlonger : url.toList <+: (Text.trim url).toList := by
      have hprefix := trimUrl_prefix_trim url
      rwa [hself] at hprefix
    have hsame : Text.trim url = url :=
      String.toList_inj.mp
        ((Text.trim_prefix hfront).eq_of_length_le hlonger.length_le)
    rw [← hsame] at hend
    exact Text.not_endsBlank_trim url hend
  · intro hend
    apply String.toList_inj.mp
    rw [toList_trimUrl, Text.trim_eq_self hfront hend]
    apply Text.dropTrailing_eq_self
    intro c hc
    apply decide_eq_false
    rintro rfl
    exact hslash hc

/-- A URL ends in a blank just if one stood before the slashes at the end of the text. -/
theorem endsBlank_trimUrl_iff : Text.EndsBlank (trimUrl raw) ↔
    ∃ front blank n, Text.isBlankChar blank = true ∧
      (Text.trim raw).toList = front ++ blank :: List.replicate (n + 1) '/' := by
  constructor
  · rintro ⟨blank, hlast, hblank⟩
    obtain ⟨front, hfront⟩ := List.getLast?_eq_some_iff.mp hlast
    obtain ⟨slashes, hslashes, hraw⟩ :=
      Text.dropTrailing_append_dropped (· = '/') (Text.trim raw).toList
    rw [← toList_trimUrl, hfront, List.append_assoc, List.singleton_append] at hraw
    have hall : slashes = List.replicate slashes.length '/' :=
      List.eq_replicate_iff.mpr ⟨rfl, fun c hc => of_decide_eq_true (hslashes c hc)⟩
    cases slashes with
    | nil =>
      -- Without a slash the text itself would end in the blank.
      refine absurd ⟨blank, ?_, hblank⟩ (Text.not_endsBlank_trim raw)
      rw [hraw, List.getLast?_concat]
    | cons c rest =>
      refine ⟨front, blank, rest.length, hblank, ?_⟩
      rw [hraw, hall]
      simp
  · rintro ⟨front, blank, n, hblank, hraw⟩
    refine ⟨blank, ?_, hblank⟩
    have hslash : decide (blank = '/') = false := by
      apply decide_eq_false
      rintro rfl
      revert hblank
      decide
    have hkept : Text.dropTrailing (· = '/') (front ++ [blank]) = front ++ [blank] := by
      apply Text.dropTrailing_eq_self
      intro c hc
      rw [List.getLast?_concat] at hc
      rw [← Option.some.inj hc]
      exact hslash
    rw [toList_trimUrl, hraw, ← List.singleton_append, ← List.append_assoc,
      Text.dropTrailing_append_replicate (by decide), hkept, List.getLast?_concat]

/-- How a configuration comes about, with the text that its URL was read from last. -/
inductive BuiltFrom : String → Config → Prop
  | environment {env : Environment} {c : Config} (read : ofEnvironment env = .ok c) :
      BuiltFrom ((env.text? "MINIMIZER_URL").getD defaultUrl) c
  | override {raw raw' : String} {c c' : Config} (built : BuiltFrom raw c)
      (read : c.withUrl raw' = .ok c') : BuiltFrom raw' c'

theorem withUrl_eq_ok {c' : Config} : c.withUrl raw = .ok c' ↔
    normalizeUrl raw = .ok c'.url ∧ c'.timeouts = c.timeouts := by
  unfold withUrl
  cases normalizeUrl raw with
  | error e => exact ⟨nofun, nofun⟩
  | ok url =>
    obtain ⟨place, timeouts⟩ := c'
    simp [Except.map, eq_comm]

theorem BuiltFrom.normalizeUrl_eq (h : BuiltFrom raw c) : normalizeUrl raw = .ok c.url := by
  cases h with
  | @environment env _ read =>
    unfold ofEnvironment at read
    cases hurl : normalizeUrl ((env.text? "MINIMIZER_URL").getD defaultUrl) with
    | error e =>
      rw [hurl] at read
      cases read
    | ok url =>
      rw [hurl] at read
      cases read
      rfl
  | override built read => exact (withUrl_eq_ok.mp read).1

/-- The URL of a configuration never begins with a blank or ends in a slash. It is read as itself
again just if it does not end in a blank either, which it does if there was one before the slashes
at the end of the text that it was read from. In that case reading it again shortens it, if it does
not refuse it. -/
theorem BuiltFrom.url_kept_iff (h : BuiltFrom raw c) :
    ¬Text.BeginsBlank c.url ∧ c.url.toList.getLast? ≠ some '/' ∧
      (c.withUrl c.url = .ok c ↔ ¬Text.EndsBlank c.url) ∧
      (Text.EndsBlank c.url ↔ ∃ front blank n, Text.isBlankChar blank = true ∧
        (Text.trim raw).toList = front ++ blank :: List.replicate (n + 1) '/') ∧
      (Text.EndsBlank c.url → ∀ c', c.withUrl c.url = .ok c' →
        c'.timeouts = c.timeouts ∧ c'.url.toList <+: c.url.toList ∧ c'.url ≠ c.url) := by
  obtain ⟨htrimmed, hscheme⟩ := normalizeUrl_eq_ok.mp h.normalizeUrl_eq
  have hfront := not_beginsBlank_of_hasScheme hscheme
  have hslash : c.url.toList.getLast? ≠ some '/' := htrimmed ▸ getLast?_trimUrl_ne raw
  have hself := trimUrl_eq_self_iff hfront hslash
  refine ⟨hfront, hslash, ?_, ?_, ?_⟩
  · rw [withUrl_eq_ok, normalizeUrl_eq_ok, hself]
    simp [hscheme]
  · rw [← htrimmed]
    exact endsBlank_trimUrl_iff
  · intro hend c' hread
    obtain ⟨hagain, htimeouts⟩ := withUrl_eq_ok.mp hread
    obtain ⟨hurl, -⟩ := normalizeUrl_eq_ok.mp hagain
    refine ⟨htimeouts, ?_, ?_⟩
    · rw [← hurl]
      exact (trimUrl_prefix_trim c.url).trans (Text.trim_prefix hfront)
    · intro hsame
      exact hself.mp (hurl.trans hsame) hend

def defaultAt (url : String) : Config := ⟨url, ⟨30, 5⟩⟩

theorem builtFrom_defaultAt (h : normalizeUrl raw = .ok url) : BuiltFrom raw (defaultAt url) := by
  have hdefault : BuiltFrom defaultUrl (defaultAt defaultUrl) :=
    @BuiltFrom.environment (fun _ => none) _ rfl
  exact hdefault.override (withUrl_eq_ok.mpr ⟨h, rfl⟩)

theorem slashed_url_kept :
    BuiltFrom " https://localhost/api// \n" (defaultAt "https://localhost/api") ∧
    (defaultAt "https://localhost/api").withUrl "https://localhost/api" =
      .ok (defaultAt "https://localhost/api") := by
  have hbuilt : BuiltFrom " https://localhost/api// \n" (defaultAt "https://localhost/api") :=
    builtFrom_defaultAt rfl
  obtain ⟨-, -, hkept, -, -⟩ := hbuilt.url_kept_iff
  refine ⟨hbuilt, hkept.mpr ?_⟩
  rintro ⟨c, hlast, hblank⟩
  obtain rfl : 'i' = c := Option.some.inj hlast
  revert hblank
  decide

/-- A blank before the slash is kept, and dropped when the URL is read again. If nothing else
follows the scheme, the URL is then refused. -/
theorem spaced_url_not_kept :
    BuiltFrom "http://a /" (defaultAt "http://a ") ∧ Text.EndsBlank "http://a " ∧
    (defaultAt "http://a ").withUrl "http://a " = .ok (defaultAt "http://a") ∧
    BuiltFrom "http:// /" (defaultAt "http:// ") ∧
    (defaultAt "http:// ").withUrl "http:// " = .error (.configuration
      "unsupported service URL 'http:// ' (expected http:// or https://)") :=
  ⟨builtFrom_defaultAt rfl, ⟨' ', rfl, rfl⟩, rfl, builtFrom_defaultAt rfl, rfl⟩

end Config
end AutomatonChart
