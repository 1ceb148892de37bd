import AutomatonChart.Proofs.Sessions

/-! # The place of the service, told twice

A submission may be told the place of the service by the environment and by the command line. The
one of the command line is used, but the one of the environment is looked at first: if it is
unusable the run ends there, also where it would have been replaced.
-/
namespace AutomatonChart

namespace Environment

/-- All variables but the place of the service are the same. -/
def SameButUrl (env env' : Environment) : Prop :=
  ∀ name, name ≠ "MINIMIZER_URL" → env name = env' name

/-- The place of the service by the environment alone. -/
def url (env : Environment) : Except ServiceError String :=
  Config.normalizeUrl ((env.text? "MINIMIZER_URL").getD Config.defaultUrl)

def timeouts (env : Environment) : Timeouts where
  request := Config.timeout env "MINIMIZER_REQUEST_TIMEOUT_SECS" 30
  connect := Config.timeout env "MINIMIZER_CONNECT_TIMEOUT_SECS" 5

end Environment

section Agreeing
variable {env env' : Environment}

theorem Environment.SameButUrl.timeouts_eq (h : env.SameButUrl env') :
    env.timeouts = env'.timeouts := by
  have hrequest := h "MINIMIZER_REQUEST_TIMEOUT_SECS" (by decide)
  have hconnect := h "MINIMIZER_CONNECT_TIMEOUT_SECS" (by decide)
  unfold Environment.timeouts Config.timeout Environment.text?
  rw [hrequest, hconnect]

namespace Arguments

theorem parse_congr (hdir : env "DFAVIZ_OUT_DIR" = env' "DFAVIZ_OUT_DIR")
    (hformat : env "DFAVIZ_FORMAT" = env' "DFAVIZ_FORMAT") (arguments : List String) :
    parse env arguments = parse env' arguments := by
  have hcommand : ∀ verb given, command env verb given = command env' verb given := by
    intro verb given
    unfold command outDir format
    rw [hdir, hformat]
  cases arguments with
  | nil => rfl
  | cons word rest =>
    unfold parse
    simp only [hcommand]

end Arguments

namespace Platform

/-- The place by the environment must be usable, though only its timeouts are kept. -/
theorem configure_of_given (env : Environment) (given : String) :
    configure env (some given) = env.url.bind fun _ =>
      (Config.normalizeUrl given).map fun place => ⟨place, env.timeouts⟩ := by
  have henv : Config.ofEnvironment env = env.url.map fun place => ⟨place, env.timeouts⟩ := rfl
  unfold configure
  rw [henv]
  cases env.url <;> rfl

variable {m : Type → Type} [Monad m] (platform : Platform m)

theorem run_minimize_congr {options : MinimizeOptions}
    (h : configure env options.serviceUrl = configure env' options.serviceUrl) :
    platform.run env (.minimize options) = platform.run env' (.minimize options) := by
  unfold run runMinimize
  dsimp only
  rw [h]

theorem run_minimize_of_misconfigured {options : MinimizeOptions} {e : ServiceError}
    (h : configure env options.serviceUrl = .error e) :
    platform.run env (.minimize options) = pure (.error (.service e)) := by
  unfold run runMinimize
  dsimp only
  rw [h]

/-- The place that the command line gives is used in the stead of the environment's, whatever the
run goes on to do, if the environment's is usable. If it is not, the run is over with that error and
has done nothing. -/
theorem given_url_overrides (hsame : env.SameButUrl env') {arguments : List String}
    {options : MinimizeOptions} {given : String}
    (hparse : Arguments.parse env arguments = .ok (.minimize options))
    (hgiven : options.serviceUrl = some given) :
    Arguments.parse env' arguments = .ok (.minimize options) ∧
    (∀ place place', env.url = .ok place → env'.url = .ok place' →
      platform.run env (.minimize options) = platform.run env' (.minimize options)) ∧
    (∀ e, env.url = .error e →
      platform.run env (.minimize options) = pure (.error (.service e))) ∧
    (∀ e, env'.url = .error e →
      platform.run env' (.minimize options) = pure (.error (.service e))) := by
  have hrefused : ∀ (env : Environment) (e : ServiceError), env.url = .error e →
      platform.run env (.minimize options) = pure (.error (.service e)) := by
    intro env e he
    apply run_minimize_of_misconfigured
    rw [hgiven, configure_of_given, he]
    rfl
  refine ⟨?_, ?_, hrefused env, hrefused env'⟩
  · have hdir := hsame "DFAVIZ_OUT_DIR" (by decide)
    have hformat := hsame "DFAVIZ_FORMAT" (by decide)
    rw [← Arguments.parse_congr hdir hformat, hparse]
  · intro place place' hplace hplace'
    apply run_minimize_congr
    rw [hgiven, configure_of_given, configure_of_given, hplace, hplace', hsame.timeouts_eq]
    rfl

end Platform
end Agreeing

namespace Transcript

def placed (place : String) : Environment := fun name =>
  if name = "MINIMIZER_URL" then some (Utf8.encode place) else none

theorem placed_sameButUrl (place : String) : Environment.SameButUrl (fun _ => none) (placed place) := by
  intro name hname
  rw [placed, if_neg hname]

def elsewhere : MinimizeOptions := { plainOptions with serviceUrl := some "http://localhost:9000" }

def elsewhereArguments : List String := ["minimize", "--service-url", "http://localhost:9000"]

def bothEmpty : String := "\x7b\"original\":[],\"minimized\":[]\x7d"

theorem parse_bothEmpty :
    Json.parse bothEmpty = .ok (.object [("original", .array []), ("minimized", .array [])]) :=
  Json.parse_of_holds (by decide +kernel)

theorem elsewhere_run :
    let run := (platform (Utf8.encode "q0") (answering 200 bothEmpty)).run (fun _ => none)
      (.minimize elsewhere) {}
    run.1 = .ok .success ∧
      run.2.requests = [⟨"POST", "http://localhost:9000", "text/plain", "q0"⟩] := by
  have hinterpret : Client.interpret ⟨"http://localhost:9000"⟩
      (.ok ⟨200, Utf8.encode bothEmpty⟩) = .ok ⟨.array [], .array [], none⟩ := by
    rw [Client.interpret_text parse_bothEmpty]
    rfl
  have hsession := @InSession.of_answer (Utf8.encode "q0") (answering 200 bothEmpty)
    (fun _ => none) {} elsewhere ⟨"http://localhost:9000", ⟨30, 5⟩⟩ "q0" _ rfl rfl rfl
    (by decide) hinterpret
  rw [hsession.run_eq]
  exact ⟨rfl, rfl⟩

theorem usable_url_overridden :
    Arguments.parse (placed "https://localhost") elsewhereArguments = .ok (.minimize elsewhere) ∧
    (platform (Utf8.encode "q0") (answering 200 bothEmpty)).run (fun _ => none)
        (.minimize elsewhere) =
      (platform (Utf8.encode "q0") (answering 200 bothEmpty)).run (placed "https://localhost")
        (.minimize elsewhere) ∧
    ((platform (Utf8.encode "q0") (answering 200 bothEmpty)).run (placed "https://localhost")
      (.minimize elsewhere) {}).2.requests =
        [⟨"POST", "http://localhost:9000", "text/plain", "q0"⟩] := by
  obtain ⟨hparse, hruns, -, -⟩ := Platform.given_url_overrides
    (platform (Utf8.encode "q0") (answering 200 bothEmpty)) (placed_sameButUrl "https://localhost")
    (show Arguments.parse (fun _ => none) elsewhereArguments = .ok (.minimize elsewhere) by rfl) rfl
  have hrun := hruns "http://localhost:8080" "https://localhost" rfl rfl
  refine ⟨hparse, hrun, ?_⟩
  rw [← hrun]
  exact elsewhere_run.2

/-- An empty place in the environment ends a run that succeeds without it. -/
theorem empty_url_not_overridden :
    Environment.SameButUrl (fun _ => none) (placed "") ∧
    Arguments.parse (fun _ => none) elsewhereArguments = .ok (.minimize elsewhere) ∧
    ((platform (Utf8.encode "q0") (answering 200 bothEmpty)).run (fun _ => none)
      (.minimize elsewhere) {}).1 = .ok .success ∧
    (platform (Utf8.encode "q0") (answering 200 bothEmpty)).run (placed "")
      (.minimize elsewhere) {} =
        (.error (.service (.configuration "MINIMIZER_URL must not be empty")), {}) := by
  refine ⟨placed_sameButUrl "", rfl, elsewhere_run.1, ?_⟩
  have hrefused : Platform.configure (placed "") elsewhere.serviceUrl =
      .error (.configuration "MINIMIZER_URL must not be empty") :=
    Platform.configure_of_given (placed "") "http://localhost:9000"
  rw [Platform.run_minimize_of_misconfigured _ hrefused]
  rfl

end Transcript
end AutomatonChart
