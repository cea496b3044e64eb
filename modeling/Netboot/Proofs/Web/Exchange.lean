import Mathlib.Data.List.Induction
import Netboot.Proofs.Web.Dispatch

/-! Everything that the filter does about a request.

The cases are told by the messages that the application sends, in any number and order, and not by
the answer that is held back.
-/

set_option autoImplicit false

namespace Netboot.Dispatch

variable {σ ε : Type} {config : Config} {menu : Option String} {names : NameStore}
  {request : Request}

def Message.head? : Message → Option (Int × List (Bytes × Bytes))
  | .start status headers => some (status, headers.getD [])
  | .body _ _ | .other _ _ => none

def Message.content : Message → Bytes
  | .body content _ => content.getD []
  | .start _ _ | .other _ _ => []

def Run.head? (run : Run ε) : Option (Int × List (Bytes × Bytes)) :=
  (run.messages.filterMap Message.head?).getLast?

def Run.status (run : Run ε) : Int := run.head?.elim 500 (·.1)

def Run.headers (run : Run ε) : List (Bytes × Bytes) := run.head?.elim [] (·.2)

def Run.body (run : Run ε) : Bytes := run.messages.flatMap Message.content

theorem capture_concat (messages : List Message) (message : Message) :
    capture (messages ++ [message]) = (capture messages).add message := by
  simp [capture]

theorem capture_messages (run : Run ε) :
    capture run.messages = ⟨run.status, run.headers, run.body⟩ := by
  obtain ⟨messages, failure⟩ := run
  induction messages using List.reverseRecOn with
  | nil => rfl
  | append_singleton earlier message ih =>
    simp only [Run.status, Run.headers, Run.head?, Run.body] at ih ⊢
    rw [capture_concat, ih]
    cases message <;> simp [Captured.add, Message.head?, Message.content]

/-- A request that the filter answers itself. -/
structure Request.Boots (request : Request) : Prop where
  http : request.kind = "http"
  path : request.path = some "/ipxe" ∨ request.path = some "ipxe"

/-- The query elects the machine, and the address is the one that it gives. -/
def Request.Announces (request : Request) (a : V4) : Prop :=
  ∃ selection, Selection.ofQuery (request.query.getD []) = .ok selection ∧
    selection.role.elects = true ∧ selection.address = some a

theorem applies_iff (request : Request) : applies request = true ↔ request.Boots := by
  obtain ⟨kind, path, query⟩ := request
  constructor
  · intro applied
    simp only [applies, isBootPath, Bool.and_eq_true, beq_iff_eq, Option.any_eq_true,
      Bool.or_eq_true] at applied
    obtain ⟨http, text, given, rfl | rfl⟩ := applied
    · exact ⟨http, .inl given⟩
    · exact ⟨http, .inr given⟩
  · rintro ⟨rfl, given⟩
    obtain rfl | rfl : path = some "/ipxe" ∨ path = some "ipxe" := given <;> rfl

theorem applies_eq_false (elsewhere : ¬ request.Boots) : applies request = false :=
  Bool.eq_false_iff.mpr (mt (applies_iff request).mp elsewhere)

theorem registers_iff {run : Run ε} {a : V4} :
    Registers run request a ↔
      request.Boots ∧ run.failure = none ∧ run.status = 200 ∧ request.Announces a := by
  constructor
  · rintro ⟨applied, completed, answered, elected⟩
    rw [capture_messages] at answered
    exact ⟨(applies_iff request).mp applied, completed, answered, elected⟩
  · rintro ⟨boots, completed, answered, elected⟩
    exact ⟨(applies_iff request).mpr boots, completed, by rwa [capture_messages], elected⟩

/-- What comes of a request that the application runs on. -/
inductive Course (config : Config) (menu : Option String) (names : NameStore) (request : Request)
    (run : Run ε) : Result ε → Prop
  | passed (elsewhere : ¬ request.Boots) :
      Course config menu names request run ⟨run.messages.map .send, run.failure, names, none⟩
  | failed (failure : ε) (boots : request.Boots) (raised : run.failure = some failure) :
      Course config menu names request run ⟨[], some failure, names, none⟩
  | menu (selection : Selection) (text : String) (boots : request.Boots)
      (completed : run.failure = none) (missing : run.status = 404)
      (read : Selection.ofQuery (request.query.getD []) = .ok selection)
      (rendered : menu = some text) :
      Course config menu names request run
        ⟨[.send (.start 200 (some [
            (Bytes.ofString "content-type", Bytes.ofString "text/plain; charset=utf-8"),
            (Bytes.ofString "content-length",
              Bytes.ofString (Bytes.ofString text).length.repr)])),
          .send (.body (some (Bytes.ofString text)) (some false))], none, names, some .menu⟩
  | unrendered (selection : Selection) (boots : request.Boots) (completed : run.failure = none)
      (missing : run.status = 404)
      (read : Selection.ofQuery (request.query.getD []) = .ok selection) (broken : menu = none) :
      Course config menu names request run
        ⟨[.send (.start 500 (some [
            (Bytes.ofString "content-type", Bytes.ofString "text/plain; charset=utf-8"),
            (Bytes.ofString "content-length", Bytes.ofString "0")])),
          .send (.body (some []) (some false))], none, names, some .error⟩
  | rejected (boots : request.Boots) (completed : run.failure = none) (missing : run.status = 404)
      (unreadable : ∀ selection, Selection.ofQuery (request.query.getD []) ≠ .ok selection) :
      Course config menu names request run
        ⟨[.send (.start 400 (some [
            (Bytes.ofString "content-type", Bytes.ofString "text/plain; charset=utf-8"),
            (Bytes.ofString "content-length", Bytes.ofString "0")])),
          .send (.body (some []) (some false))], none, names, some .rejected⟩
  | relayed (boots : request.Boots) (completed : run.failure = none) (found : run.status ≠ 404)
      (unelected : run.status = 200 → ∀ a, ¬ request.Announces a) :
      Course config menu names request run
        ⟨[.send (.start run.status (some run.headers)), .send (.body (some run.body) (some false))],
          none, names, some .relay⟩
  | registered (a : V4) (boots : request.Boots) (completed : run.failure = none)
      (found : run.status = 200) (announced : request.Announces a) :
      Course config menu names request run
        ⟨[.register a, .send (.start run.status (some run.headers)),
            .send (.body (some run.body) (some false))], none,
          (names.registerAddress config.controlplane (.v4 a)).1, some .relay⟩

theorem announces_of_read {selection : Selection} {a : V4}
    (read : Selection.ofQuery (request.query.getD []) = .ok selection) :
    request.Announces a ↔ selection.role.elects = true ∧ selection.address = some a := by
  simp [Request.Announces, read]

theorem Request.Announces.unique {a b : V4} (one : request.Announces a)
    (other : request.Announces b) : a = b := by
  obtain ⟨selection, read, -, announced⟩ := one
  have again := ((announces_of_read read).mp other).2
  exact Option.some.inj (announced.symm.trans again)

theorem foldl_carryOut_sends (config : Config) (names : NameStore) (messages : List Message) :
    (messages.map Act.send).foldl (Act.carryOut config) names = names := by
  induction messages with
  | nil => rfl
  | cons message rest ih => exact ih

theorem ofActs_sends (messages : List Message) (outcome : Outcome) :
    Result.ofActs ε config names (messages.map .send) outcome =
      ⟨messages.map .send, none, names, some outcome⟩ := by
  rw [Result.ofActs, foldl_carryOut_sends]

theorem handle_of_boots {app : App σ ε} {state : σ} (boots : request.Boots)
    (completed : (app state request).1.failure = none) :
    let run := (app state request).1
    (handle config menu app state names request).1 =
      respond ε config menu names (request.query.getD []) ⟨run.status, run.headers, run.body⟩ := by
  simp only [handle, (applies_iff request).mpr boots, completed, capture_messages]
  rfl

theorem course_of_missing {run : Run ε} (boots : request.Boots) (completed : run.failure = none)
    (missing : run.status = 404) :
    Course config menu names request run
      (respond ε config menu names (request.query.getD []) ⟨run.status, run.headers, run.body⟩) := by
  unfold respond
  split
  next selection read =>
    rw [decide, if_pos missing]
    cases rendered : menu with
    | some text =>
      simp only [perform, ofActs_sends]
      exact .menu selection text boots completed missing read rfl
    | none =>
      simp only [perform, ofActs_sends]
      exact .unrendered selection boots completed missing read rfl
  next fault unread =>
    rw [if_pos missing, ofActs_sends]
    exact .rejected boots completed missing (by simp [unread])

theorem course_of_found {run : Run ε} (boots : request.Boots) (completed : run.failure = none)
    (found : run.status ≠ 404) :
    Course config menu names request run
      (respond ε config menu names (request.query.getD []) ⟨run.status, run.headers, run.body⟩) := by
  unfold respond
  split
  next selection read =>
    rw [decide, if_neg found]
    split
    next both =>
      obtain ⟨answered, elects⟩ := (Bool.and_eq_true _ _).mp both
      cases announced : selection.address with
      | none =>
        refine .relayed boots completed found fun _ a announces => ?_
        rw [announces_of_read read, announced] at announces
        cases announces.2
      | some a =>
        exact .registered a boots completed (of_decide_eq_true answered)
          ⟨selection, read, elects, announced⟩
    next other =>
      refine .relayed boots completed found fun answered a announces => other ?_
      rw [announces_of_read read] at announces
      simp [answered, announces.1]
  next fault unread =>
    -- The selection that stands in for an unreadable query elects nobody.
    have decided : decide ⟨run.status, run.headers, run.body⟩ {} =
        .relay ⟨run.status, run.headers, run.body⟩ none := by
      simp [decide, found, Role.elects]
    rw [if_neg found, decided]
    refine .relayed boots completed found fun _ a announces => ?_
    obtain ⟨selection, read, -⟩ := announces
    rw [unread] at read
    cases read

theorem Course.of_handle (config : Config) (menu : Option String) (app : App σ ε) (state : σ)
    (names : NameStore) (request : Request) :
    Course config menu names request (app state request).1
      (handle config menu app state names request).1 := by
  by_cases boots : request.Boots
  swap
  · have passed : Course config menu names request (app state request).1 _ := .passed boots
    simpa [handle, applies_eq_false boots] using passed
  cases completed : (app state request).1.failure with
  | some failure =>
    have failed : Course config menu names request (app state request).1 _ :=
      .failed failure boots completed
    simpa [handle, (applies_iff request).mpr boots, completed] using failed
  | none =>
    rw [handle_of_boots boots completed]
    by_cases missing : (app state request).1.status = 404
    · exact course_of_missing boots completed missing
    · exact course_of_found boots completed missing

theorem Course.unique {run : Run ε} {result other : Result ε}
    (one : Course config menu names request run result)
    (two : Course config menu names request run other) : result = other := by
  -- What each case asks of the run and of the query leaves no other.
  cases one with
  | passed elsewhere => cases two <;> first | rfl | contradiction
  | failed failure boots raised => cases two <;> grind
  | menu selection text boots completed missing read rendered => cases two <;> grind
  | unrendered selection boots completed missing read broken => cases two <;> grind
  | rejected boots completed missing unreadable => cases two <;> grind
  | relayed boots completed found unelected => cases two <;> grind
  | registered a boots completed found announced => cases two <;> grind [Request.Announces.unique]

theorem handle_state (config : Config) (menu : Option String) (app : App σ ε) (state : σ)
    (names : NameStore) (request : Request) :
    (handle config menu app state names request).2 = (app state request).2 := by
  unfold handle
  dsimp only
  split
  · rfl
  split <;> rfl

def App.counted (app : App σ ε) : App (σ × Nat) ε :=
  fun (state, runs) request => ((app state request).1, (app state request).2, runs + 1)

/-- The application is run on a request once, and the request takes the course that fits this run:
what the client receives, what is registered before that, and what becomes of the names. -/
theorem handle_iff_course (config : Config) (menu : Option String) (app : App σ ε) (state : σ)
    (names : NameStore) (request : Request) :
    (∀ result after, handle config menu app state names request = (result, after) ↔
      after = (app state request).2 ∧
        Course config menu names request (app state request).1 result) ∧
    ∀ runs, (handle config menu app.counted (state, runs) names request).2.2 = runs + 1 := by
  have course := Course.of_handle config menu app state names request
  have ran := handle_state config menu app state names request
  refine ⟨fun result after => ⟨fun handled => ?_, ?_⟩, fun runs => ?_⟩
  · rw [handled] at course ran
    exact ⟨ran, course⟩
  · rintro ⟨rfl, fitting⟩
    exact Prod.ext (course.unique fitting) ran
  · rw [handle_state]
    rfl

end Netboot.Dispatch
