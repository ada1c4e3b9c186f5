import ValetudoMatter.Lemmas.Init

/-!
# Initialisation

`Device.init` is a sequence of stages: each asks the robot for one thing, and ends `init` with its own error or goes on. Its
result is that of the first stage that fails, and it asks for nothing after it (`init_stages`).
-/

namespace ValetudoMatter

open Coroutine

/-- A stage of `init`: what it asks for, and whether it goes on or with what error it ends. -/
structure Stage where
  path : String
  result : Except AnyhowError Unit

/-- A stage ends `init`. -/
def Stage.fails (s : Stage) : Bool :=
  match s.result with
  | .ok () => false
  | .error _ => true

/-- What is asked for in stages, up to the first that fails. -/
def Stage.sent (stages : List Stage) : List HttpRequest :=
  (stages.take (stages.findIdx Stage.fails + 1)).map fun s => .get s.path

/-- The error of the first stage that fails. -/
def Stage.error? (stages : List Stage) : Option AnyhowError :=
  stages.findSome? fun s =>
    match s.result with
    | .ok () => none
    | .error e => some e

/-- What a stage asks for, with the check of what it gets. -/
def Stage.asking {α : Type} (path : String) (answer : Except AnyhowError α) (check : α → Except AnyhowError Unit) : Stage :=
  ⟨path, answer.bind check⟩

/-- The stages of `init`: the capabilities, which must have the basic control; the presets where the robot has any; the
attributes, which must have a status; and the segments where the robot has any. -/
def Answers.stages (answers : Answers) : List Stage :=
  .asking "/api/v2/robot/capabilities" (context "Failed to fetch capabilities" answers.capabilities) (fun capabilities =>
    if .basicControlCapability ∉ capabilities then .error (.msg "Device requires at least BasicControlCapability")
    else .ok ()) ::
  ((if .operationModeControlCapability ∈ answers.fetched then
    [.asking "/api/v2/robot/capabilities/OperationModeControlCapability/presets"
      (context "Failed to fetch cleaning mode presets" answers.presets) fun _ => .ok ()] else []) ++
  .asking "/api/v2/robot/state/attributes" (context "Failed to fetch initial status" answers.attributes) (fun attributes =>
    if attributes.findSome? StateAttribute.status? = none then .error (.msg "No status attribute in api response")
    else .ok ()) ::
  (if .mapSegmentationCapability ∈ answers.fetched then
    [.asking "/api/v2/robot/capabilities/MapSegmentationCapability"
      (context "Failed to fetch map segments" answers.segments) fun _ => .ok ()] else []))

/-! ## Running stages -/

/-- A computation runs stages: it asks for them up to the first that fails, and fails with its error or is done. -/
def Init.Runs {α : Type} (x : Init α) (stages : List Stage) : Prop :=
  ∃ y, x () = .exit () (Stage.sent stages) y ∧
    match Stage.error? stages with
    | some e => y = .fail e
    | none => ∃ a, y = .done a

theorem Init.Runs.pure {α : Type} (a : α) : Init.Runs (Pure.pure a) [] := ⟨.done a, rfl, a, rfl⟩

/-- A stage that fails is the last. -/
theorem Stage.of_error {s : Stage} {e : AnyhowError} (h : s.result = .error e) (rest : List Stage) :
    Stage.sent (s :: rest) = [.get s.path] ∧ Stage.error? (s :: rest) = some e := by
  constructor
  · simp [sent, List.findIdx_cons, fails, h]
  · simp [error?, h]

/-- After a stage that does not fail comes what comes after it. -/
theorem Stage.of_ok {s : Stage} (h : s.result = .ok ()) (rest : List Stage) :
    Stage.sent (s :: rest) = .get s.path :: Stage.sent rest ∧ Stage.error? (s :: rest) = Stage.error? rest := by
  constructor
  · simp [sent, List.findIdx_cons, fails, h]
  · simp [error?, h]

/-- A stage, and what comes after it. -/
theorem Init.Runs.stage {α γ : Type} {path : String} {answer : Except AnyhowError α}
    {check : α → Except AnyhowError Unit} {f : α → Init γ} {rest : List Stage}
    (hfail : ∀ a e, answer = .ok a → check a = .error e → f a = Co.fail e)
    (hrest : ∀ a, answer = .ok a → check a = .ok () → (f a).Runs rest) :
    Init.Runs (Init.get path answer >>= f) (.asking path answer check :: rest) := by
  unfold Init.Runs
  rcases answer with e | a
  · obtain ⟨hsent, herror⟩ := @Stage.of_error (.asking path (.error e) check) e rfl rest
    rw [hsent, herror]
    exact ⟨.fail e, rfl, rfl⟩
  · rcases hcheck : check a with e | _
    · obtain ⟨hsent, herror⟩ := @Stage.of_error (.asking path (.ok a) check) e hcheck rest
      rw [hsent, herror]
      refine ⟨.fail e, ?_, rfl⟩
      simp [Init.get, hfail a e rfl hcheck, Stage.asking]
    · obtain ⟨hsent, herror⟩ := @Stage.of_ok (.asking path (.ok a) check) hcheck rest
      obtain ⟨y, hy, hend⟩ := hrest a rfl hcheck
      rw [hsent, herror]
      refine ⟨y, ?_, hend⟩
      simp [Init.get, hy, Stage.asking]

/-- A stage that there is only for some robots. -/
theorem Init.Runs.optional {α γ : Type} {c : Prop} [Decidable c] {path : String} {answer : Except AnyhowError α} {default : α}
    {f : α → Init γ} {rest : List Stage} (hrest : ∀ a, (f a).Runs rest) :
    Init.Runs ((if c then Init.get path answer else Pure.pure default) >>= f)
      ((if c then [.asking path answer fun _ => .ok ()] else []) ++ rest) := by
  by_cases h : c
  · rw [if_pos h, if_pos h]
    exact .stage (fun a e _ hcheck => nomatch hcheck) fun a _ _ => hrest a
  · rw [if_neg h, if_neg h]
    obtain ⟨y, hy, hend⟩ := hrest default
    exact ⟨y, by simp [hy], hend⟩

theorem Init.Runs.optional_last {α γ : Type} {c : Prop} [Decidable c] {path : String} {answer : Except AnyhowError α}
    {default : α} {f : α → Init γ} (hrest : ∀ a, (f a).Runs []) :
    Init.Runs ((if c then Init.get path answer else Pure.pure default) >>= f)
      (if c then [.asking path answer fun _ => .ok ()] else []) := by
  have h := @Init.Runs.optional α γ c _ path answer default f [] hrest
  rwa [List.append_nil] at h

/-- The stages of `init` are run. -/
theorem init_runs (answers : Answers) (versions : Versions) : (Device.init answers versions).Runs answers.stages := by
  have hfetched : ∀ capabilities, context "Failed to fetch capabilities" answers.capabilities = .ok capabilities →
      answers.fetched = capabilities := by
    intro capabilities h
    unfold Answers.fetched
    rcases hanswer : answers.capabilities with e | _
    · rw [hanswer] at h
      cases h
    · rw [hanswer] at h
      cases h
      rfl
  refine .stage ?_ ?_
  · intro capabilities e _ hcheck
    split at hcheck
    · rename_i hbasic
      cases hcheck
      rw [if_pos hbasic]
    · cases hcheck
  · intro capabilities hcapabilities hcheck
    split at hcheck
    · cases hcheck
    · rename_i hbasic
      rw [if_neg hbasic, hfetched capabilities hcapabilities]
      refine .optional fun presets => .stage ?_ ?_
      · intro attributes e _ hcheck
        split at hcheck
        · rename_i hstatus
          cases hcheck
          rw [hstatus]
        · cases hcheck
      · intro attributes _ hcheck
        split at hcheck
        · cases hcheck
        · rename_i hstatus
          obtain ⟨status, hstatus⟩ := Option.ne_none_iff_exists'.mp hstatus
          rw [hstatus]
          exact .optional_last fun segments => .pure _

/-- The first stage that fails decides. Whatever the robot answers, `init` asks for the capabilities, the presets where it has
any, the attributes and the segments where it has any, in this order and for nothing after the first stage that fails; it fails
with the error of that stage, which is that of the request under the context of what it was for, or says what is missing; and if
none fails, it gives a device that is what the answers say. -/
theorem init_stages (answers : Answers) (versions : Versions) :
    ∃ x, Device.init answers versions () = .exit () (Stage.sent answers.stages) x ∧
      match Stage.error? answers.stages with
      | some e => x = .fail e
      | none => ∃ d, x = .done d ∧ Initialised answers d := by
  obtain ⟨x, hinit, hend⟩ := init_runs answers versions
  refine ⟨x, hinit, ?_⟩
  split
  · rename_i e herror
    rw [herror] at hend
    exact hend
  · rename_i herror
    rw [herror] at hend
    obtain ⟨d, rfl⟩ := hend
    exact ⟨d, rfl, .of_init hinit⟩

end ValetudoMatter
