import Netboot.Proofs.Web.Election
import Netboot.Proofs.Web.Registration

/-! What a client receives for a boot request, told by what the application answers. -/

set_option autoImplicit false

namespace Netboot

def NameStore.announce (names : NameStore) (controlplane : String) : Option V4 → NameStore
  | none => names
  | some a => (names.registerAddress controlplane (.v4 a)).1

namespace Web

variable {store : Profile.Store} {names : NameStore} {request : Request} {response : Response}
  {config : Dispatch.Config}

theorem scope_boots (boots : Dispatch.isBootPath request.target = true) : request.scope.Boots :=
  (Dispatch.applies_iff request.scope).mp
    (by simpa [Dispatch.applies, Request.scope] using boots)

theorem ran_of_respond (answered : respond store request = .ok response) :
    app request.method request.host store request.scope = (⟨response.messages, none⟩, store) := by
  simp only [app, Request.scope, Option.getD_some]
  rw [answered]

theorem course_of_respond (config : Dispatch.Config) (names : NameStore)
    (answered : respond store request = .ok response) :
    Dispatch.Course config (some config.menu) names request.scope
      (⟨response.messages, none⟩ : Dispatch.Run Fault)
      (Dispatch.handle config (some config.menu) (app request.method request.host) store names
        request.scope).1 := by
  have course := Dispatch.Course.of_handle config (some config.menu)
    (app request.method request.host) store names request.scope
  rwa [ran_of_respond answered] at course

theorem sent_answer (status : Int) (headers : List (Bytes × Bytes)) (body : Bytes)
    (names : NameStore) (outcome : Option Dispatch.Outcome) :
    (⟨[.send (.start status (some headers)), .send (.body (some body) (some false))], none, names,
      outcome⟩ : Dispatch.Result Fault).sent = Dispatch.answer status headers body :=
  rfl

theorem answer_ran (response : Response) :
    let run : Dispatch.Run Fault := ⟨response.messages, none⟩
    Dispatch.answer run.status run.headers run.body = response.messages := by
  intro run
  have body : run.body = response.body := List.append_nil response.body
  rw [body]
  rfl

theorem ofMessages_text (text : String) :
    Response.ofMessages (Dispatch.answer 200 [
        (Bytes.ofString "content-type", Bytes.ofString "text/plain; charset=utf-8"),
        (Bytes.ofString "content-length", Bytes.ofString (Bytes.ofString text).length.repr)]
      (Bytes.ofString text)) = script 200 text := by
  refine ofMessages_answer ?_ ?_
  · rw [List.lookup_cons_self]
    decide +kernel
  · have other : Bytes.ofString "allow" ≠ Bytes.ofString "content-type" ∧
        Bytes.ofString "allow" ≠ Bytes.ofString "content-length" := by
      decide
    simp [List.lookup_cons, beq_false_of_ne other.1, beq_false_of_ne other.2]

def pageHeaders : List (Bytes × Bytes) := [(Bytes.ofString "content-type", Bytes.ofString html)]

theorem ofMessages_page (status : Nat) (title explanation : String) :
    Response.ofMessages (errorPage status title explanation []).messages =
      errorPage status title explanation [] := by
  have headers : (errorPage status title explanation []).headers = pageHeaders := rfl
  have told : (pageHeaders.lookup (Bytes.ofString "content-type")).bind Bytes.toString? =
      some html := by
    cbv
  have bare : pageHeaders.lookup (Bytes.ofString "allow") = none := by rfl
  rw [Response.messages, headers, ofMessages_answer told bare]
  dsimp only [errorPage]

theorem handle_of_missing {selection : Selection}
    (boots : Dispatch.isBootPath request.target = true)
    (read : Selection.ofQuery request.query = .ok selection)
    (answered : respond store request = .ok response) (missing : response.status = 404) :
    handle config store names request = ⟨.ok (script 200 config.menu), names, some .menu⟩ := by
  have course := course_of_respond config names answered
  have status : (⟨response.messages, none⟩ : Dispatch.Run Fault).status = 404 :=
    congrArg Int.ofNat missing
  rw [handle_eq]
  generalize (Dispatch.handle config (some config.menu) (app request.method request.host) store names
    request.scope).1 = result at course
  cases course with
  | passed elsewhere => exact absurd (scope_boots boots) elsewhere
  | failed failure _ raised => cases raised
  | menu _ text _ _ _ _ rendered =>
    obtain rfl := Option.some.inj rendered
    simp only [sent_answer, ofMessages_text]
  | unrendered _ _ _ _ _ broken => cases broken
  | rejected _ _ _ unreadable => exact absurd read (unreadable selection)
  | relayed _ _ found => exact absurd status found
  | registered a _ _ found => exact nomatch status.symm.trans found

/-- Any other answer is relayed, and one with status 200 registers what was announced. -/
theorem handle_of_answer (boots : Dispatch.isBootPath request.target = true)
    (answered : respond store request = .ok response) (other : response.status ≠ 404) :
    handle config store names request = ⟨.ok (Response.ofMessages response.messages),
      if response.status = 200 then
        names.announce config.controlplane request.scope.announced?
      else names, some .relay⟩ := by
  have course := course_of_respond config names answered
  have status : (⟨response.messages, none⟩ : Dispatch.Run Fault).status = response.status := rfl
  have missing : (⟨response.messages, none⟩ : Dispatch.Run Fault).status ≠ 404 :=
    fun same => other (Int.ofNat_inj.mp same)
  rw [handle_eq]
  generalize (Dispatch.handle config (some config.menu) (app request.method request.host) store names
    request.scope).1 = result at course
  cases course with
  | passed elsewhere => exact absurd (scope_boots boots) elsewhere
  | failed failure _ raised => cases raised
  | menu _ _ _ _ same => exact absurd same missing
  | unrendered _ _ _ same => exact absurd same missing
  | rejected _ _ same => exact absurd same missing
  | relayed _ _ _ unelected =>
    -- Either the answer registers nothing, or nothing was announced.
    have same : (if response.status = 200 then
        names.announce config.controlplane request.scope.announced? else names) = names := by
      split
      next found =>
        cases announced : request.scope.announced? with
        | none => rfl
        | some a =>
          have announces := Dispatch.announced?_eq_some.mp announced
          exact absurd announces (unelected (status.trans (congrArg Int.ofNat found)) a)
      · rfl
    simp only [sent_answer, same, answer_ran]
  | registered a _ _ found announced =>
    have answer : response.status = 200 := Int.ofNat_inj.mp (status.symm.trans found)
    rw [if_pos answer, Dispatch.announced?_eq_some.mpr announced]
    exact congrArg (Handled.mk · _ _) (congrArg (Except.ok ∘ Response.ofMessages)
      (answer_ran response))

theorem handle_of_internalError (boots : Dispatch.isBootPath request.target = true)
    (answered : respond store request = .ok internalError) :
    handle config store names request = ⟨.ok internalError, names, some .relay⟩ := by
  rw [handle_of_answer boots answered (by decide), internalError, ofMessages_page]
  rfl

end Web

end Netboot
