import AutomatonChart.Delivery.Page

/-! # What a page carries

The title and the diagram stand between tags that they can neither open nor close: an escaped text
holds no angle bracket, so whoever looks for tags finds those of the empty page. Reading the
entities of the text between two of these tags gives back what was put there, and so a page tells
the title and the diagram that it was made from.
-/
namespace AutomatonChart.Page

/-- Reads the three entities, from left to right and just once. -/
def unescape : List Char → List Char
  | '&' :: 'a' :: 'm' :: 'p' :: ';' :: rest => '&' :: unescape rest
  | '&' :: 'l' :: 't' :: ';' :: rest => '<' :: unescape rest
  | '&' :: 'g' :: 't' :: ';' :: rest => '>' :: unescape rest
  | c :: rest => c :: unescape rest
  | [] => []

def isAngle (c : Char) : Bool := c = '<' || c = '>'

/-- What stands in the tags of a page: for each `<` the characters up to the next `>`. -/
def tags : List Char → List (List Char)
  | [] => []
  | c :: rest => if c = '<' then rest.takeWhile (· ≠ '>') :: tags rest else tags rest

def behind? (mark : List Char) : List Char → Option (List Char)
  | [] => none
  | c :: rest =>
    if mark.isPrefixOf (c :: rest) then some ((c :: rest).drop mark.length) else behind? mark rest

def upTo? (mark : List Char) : List Char → Option (List Char)
  | [] => none
  | c :: rest => if mark.isPrefixOf (c :: rest) then some [] else (upTo? mark rest).map (c :: ·)

def between? (opening closing : String) (page : String) : Option (List Char) :=
  (behind? opening.toList page.toList).bind (upTo? closing.toList)

section Escaped
variable {c : Char} {front rest mark : List Char}

theorem toList_escape (text : String) : (escape text).toList = text.toList.flatMap entity :=
  String.toList_ofList

theorem unescape_cons (hc : c ≠ '&') (rest : List Char) :
    unescape (c :: rest) = c :: unescape rest := by
  rw [unescape] <;> exact fun _ hamp => absurd hamp hc

/-- One entity is read as the character that it was written for, whatever follows. -/
theorem unescape_entity_append (c : Char) (rest : List Char) :
    unescape (entity c ++ rest) = c :: unescape rest := by
  unfold entity
  by_cases hamp : c = '&'
  · subst hamp
    rfl
  by_cases hless : c = '<'
  · subst hless
    rfl
  by_cases hgreater : c = '>'
  · subst hgreater
    rfl
  rw [if_neg hamp, if_neg hless, if_neg hgreater, List.singleton_append, unescape_cons hamp]

theorem unescape_escape (text : String) : unescape (escape text).toList = text.toList := by
  rw [toList_escape]
  induction text.toList with
  | nil => rfl
  | cons c rest ih => rw [List.flatMap_cons, unescape_entity_append, ih]

example : escape "&lt;</pre>" = "&amp;lt;&lt;/pre&gt;" := by decide

theorem isAngle_of_mem_entity {d : Char} (h : c ∈ entity d) : isAngle c = false := by
  have hnone : ∀ text : String, text.toList.all (fun c => !isAngle c) = true →
      c ∈ text.toList → isAngle c = false := by
    intro text hall hc
    simpa using List.all_eq_true.mp hall c hc
  unfold entity at h
  split at h
  · exact hnone _ rfl h
  split at h
  · exact hnone _ rfl h
  split at h
  · exact hnone _ rfl h
  obtain rfl := List.mem_singleton.mp h
  simp_all [isAngle]

theorem isAngle_of_mem_escape {text : String} (h : c ∈ (escape text).toList) :
    isAngle c = false := by
  rw [toList_escape] at h
  obtain ⟨d, -, hd⟩ := List.mem_flatMap.mp h
  exact isAngle_of_mem_entity hd

theorem ne_less_of_mem_escape {text : String} (h : c ∈ (escape text).toList) : c ≠ '<' := by
  rintro rfl
  exact absurd (isAngle_of_mem_escape h) (by decide)

theorem tags_append (h : ∀ c ∈ front, c ≠ '<') : tags (front ++ rest) = tags rest := by
  induction front with
  | nil => rfl
  | cons c front ih =>
    obtain ⟨hc, hfront⟩ := List.forall_mem_cons.mp h
    rw [List.cons_append, tags, if_neg hc, ih hfront]

theorem not_isPrefixOf (h : c ≠ '<') : ('<' :: mark).isPrefixOf (c :: rest) = false := by
  simp [List.isPrefixOf, Ne.symm h]

theorem behind?_append (h : ∀ c ∈ front, c ≠ '<') :
    behind? ('<' :: mark) (front ++ rest) = behind? ('<' :: mark) rest := by
  induction front with
  | nil => rfl
  | cons c front ih =>
    obtain ⟨hc, hfront⟩ := List.forall_mem_cons.mp h
    rw [List.cons_append, behind?, not_isPrefixOf hc, ih hfront]
    rfl

theorem upTo?_append (h : ∀ c ∈ front, c ≠ '<') (hmark : '<' :: mark <+: rest) :
    upTo? ('<' :: mark) (front ++ rest) = some front := by
  induction front with
  | nil =>
    obtain ⟨behind, rfl⟩ := hmark
    simp [upTo?]
  | cons c front ih =>
    obtain ⟨hc, hfront⟩ := List.forall_mem_cons.mp h
    rw [List.cons_append, upTo?, not_isPrefixOf hc, ih hfront]
    rfl

/-- Between two tags stands what begins behind the one and holds no angle bracket before the
other. -/
theorem between?_eq {opening closing page : String}
    (hopening : behind? opening.toList page.toList = some (front ++ rest))
    (hclosing : closing.toList = '<' :: mark) (h : ∀ c ∈ front, c ≠ '<')
    (hmark : '<' :: mark <+: rest) : between? opening closing page = some front := by
  rw [between?, hopening, Option.bind_some, hclosing]
  exact upTo?_append h hmark

theorem prefix_toList_append {text : String} (h : mark <+: text.toList) (more : String) :
    mark <+: (text ++ more).toList := by
  rw [String.toList_append]
  exact h.trans (List.prefix_append _ _)

end Escaped

section Html
variable (title diagram : String)

theorem toList_html : (html title diagram).toList =
    beforeTitle.toList ++ ((escape title).toList ++ (beforeDiagram.toList ++
      ((escape diagram).toList ++ afterDiagram.toList))) := by
  simp only [html, String.toList_append, List.append_assoc]

theorem filter_isAngle_html : (html title diagram).toList.filter isAngle =
    beforeTitle.toList.filter isAngle ++ (beforeDiagram.toList.filter isAngle ++
      afterDiagram.toList.filter isAngle) := by
  have hescaped : ∀ text : String, (escape text).toList.filter isAngle = [] := by
    intro text
    apply List.filter_eq_nil_iff.mpr
    intro c hc
    rw [isAngle_of_mem_escape hc]
    exact Bool.false_ne_true
  rw [toList_html, List.filter_append, List.filter_append, List.filter_append, List.filter_append,
    hescaped, hescaped, List.nil_append, List.nil_append]

theorem tags_html : tags (html title diagram).toList =
    tags beforeTitle.toList ++ (tags beforeDiagram.toList ++ tags afterDiagram.toList) := by
  -- The parts of a page close the tags that they open.
  have htitle : ∀ rest, tags (beforeTitle.toList ++ rest) = tags beforeTitle.toList ++ tags rest :=
    fun _ => rfl
  have hdiagram : ∀ rest,
      tags (beforeDiagram.toList ++ rest) = tags beforeDiagram.toList ++ tags rest := fun _ => rfl
  rw [toList_html, htitle, tags_append fun _ => ne_less_of_mem_escape, hdiagram,
    tags_append fun _ => ne_less_of_mem_escape]

theorem between?_title :
    between? "<title>" "</title>" (html title diagram) = some (escape title).toList := by
  have hbehind : ∀ rest, behind? "<title>".toList (beforeTitle.toList ++ rest) = some rest :=
    fun _ => rfl
  have hopening := hbehind ((escape title).toList ++ (beforeDiagram.toList ++
    ((escape diagram).toList ++ afterDiagram.toList)))
  rw [← toList_html] at hopening
  have hclosing : "</title>".toList = '<' :: "/title>".toList := rfl
  have hmark : '<' :: "/title>".toList <+: beforeDiagram.toList := by decide +kernel
  exact between?_eq hopening hclosing (fun _ => ne_less_of_mem_escape)
    (hmark.trans (List.prefix_append _ _))

theorem between?_pre :
    between? "<pre class=\"mermaid\">\n" "</pre>" (html title diagram) =
      some (escape diagram).toList := by
  have hskip : ∀ rest, behind? "<pre class=\"mermaid\">\n".toList (beforeTitle.toList ++ rest) =
      behind? "<pre class=\"mermaid\">\n".toList rest := fun _ => rfl
  have htitle : ∀ rest,
      behind? "<pre class=\"mermaid\">\n".toList ((escape title).toList ++ rest) =
        behind? "<pre class=\"mermaid\">\n".toList rest := by
    intro rest
    have hpre : "<pre class=\"mermaid\">\n".toList = '<' :: "pre class=\"mermaid\">\n".toList :=
      rfl
    rw [hpre]
    exact behind?_append fun _ => ne_less_of_mem_escape
  have hbehind : ∀ rest,
      behind? "<pre class=\"mermaid\">\n".toList (beforeDiagram.toList ++ rest) = some rest :=
    fun _ => rfl
  have hopening := (hskip _).trans ((htitle _).trans
    (hbehind ((escape diagram).toList ++ afterDiagram.toList)))
  rw [← toList_html] at hopening
  have hclosing : "</pre>".toList = '<' :: "/pre>".toList := rfl
  have hmark : '<' :: "/pre>".toList <+: afterDiagram.toList :=
    prefix_toList_append (prefix_toList_append (by simp) _) _
  exact between?_eq hopening hclosing (fun _ => ne_less_of_mem_escape) hmark

/-- Whatever the title and the diagram are, a page has the angle brackets and the tags of the empty
page, and the entities between the tags of the title and of the diagram read as the one and the
other. So two pages are the same just if both are. -/
theorem html_carries_texts :
    (html title diagram).toList.filter isAngle = (html "" "").toList.filter isAngle ∧
      tags (html title diagram).toList = tags (html "" "").toList ∧
      (between? "<title>" "</title>" (html title diagram)).map unescape = some title.toList ∧
      (between? "<pre class=\"mermaid\">\n" "</pre>" (html title diagram)).map unescape =
        some diagram.toList ∧
      ∀ title' diagram', html title diagram = html title' diagram' ↔
        title = title' ∧ diagram = diagram' := by
  refine ⟨?_, ?_, ?_, ?_, ?_⟩
  · rw [filter_isAngle_html, filter_isAngle_html]
  · rw [tags_html, tags_html]
  · rw [between?_title, Option.map_some, unescape_escape]
  · rw [between?_pre, Option.map_some, unescape_escape]
  · intro title' diagram'
    constructor
    · intro hpage
      have htitle := congrArg (between? "<title>" "</title>") hpage
      have hdiagram := congrArg (between? "<pre class=\"mermaid\">\n" "</pre>") hpage
      rw [between?_title, between?_title] at htitle
      rw [between?_pre, between?_pre] at hdiagram
      have hread := congrArg unescape (Option.some.inj htitle)
      have hread' := congrArg unescape (Option.some.inj hdiagram)
      rw [unescape_escape, unescape_escape] at hread hread'
      exact ⟨String.toList_inj.mp hread, String.toList_inj.mp hread'⟩
    · rintro ⟨rfl, rfl⟩
      rfl

end Html
end AutomatonChart.Page
