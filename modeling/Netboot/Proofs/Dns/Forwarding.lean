import Netboot.Dns.Responder

/-! Queries for names that are not held here: the forwarders are asked one after another, up to the
first that does not fail.
-/

set_option autoImplicit false

namespace Netboot.Dns

/-- What a forwarder gives. One that fails gives nothing: its answer is lost, or is no message. -/
def Fate.result? : Fate → Option (Except Fault Message)
  | .lost => none
  | .replied data => (Message.ofBytes? data).map .ok
  | .broken reason => some (.error (.broken reason))

namespace Responder

def resultAt (fates : List Fate) (place : Nat) : Option (Except Fault Message) :=
  (fates.getD place .lost).result?

theorem resultAt_tail (fates : List Fate) (place : Nat) :
    resultAt fates.tail place = resultAt fates (place + 1) := by
  cases fates <;> rfl

variable {responder : Responder} {names : NameStore} {fates : List Fate} {query : Message}
  {question : Question} {forwarders : List Forwarder}

theorem forward_cons (query : Message) (forwarder : Forwarder) (rest : List Forwarder)
    (fates : List Fate) : forward query (forwarder :: rest) fates =
      match resultAt fates 0 with
      | some result => ([forwarder], result)
      | none =>
        let later := forward query rest fates.tail
        (forwarder :: later.1, later.2) := by
  have first : fates.getD 0 .lost = fates.head?.getD .lost := by
    cases fates <;> rfl
  rw [resultAt, first, forward]
  cases fates.head?.getD .lost with
  | lost => rfl
  | broken reason => rfl
  | replied data =>
    dsimp only [Fate.result?]
    cases Message.ofBytes? data <;> rfl

/-- Behind the first forwarder that does not fail none is asked. -/
theorem forward_of_result {place : Nat} {result : Except Fault Message}
    (listed : place < forwarders.length) (earlier : ∀ i < place, resultAt fates i = none)
    (answers : resultAt fates place = some result) :
    forward query forwarders fates = (forwarders.take (place + 1), result) := by
  induction forwarders generalizing fates place with
  | nil => cases listed
  | cons forwarder rest ih =>
    rw [forward_cons]
    cases place with
    | zero => rw [answers, List.take_succ_cons, List.take_zero]
    | succ place =>
      rw [earlier 0 (Nat.zero_lt_succ place)]
      have later := ih (Nat.lt_of_succ_lt_succ listed)
        (fun i before => (resultAt_tail fates i).trans (earlier (i + 1) (Nat.succ_lt_succ before)))
        ((resultAt_tail fates place).trans answers)
      dsimp only
      rw [later, List.take_succ_cons]

theorem forward_of_failures (failed : ∀ i < forwarders.length, resultAt fates i = none) :
    forward query forwarders fates =
      (forwarders, (replyTo query).map (·.withRcode Message.serverFailure)) := by
  induction forwarders generalizing fates with
  | nil => rfl
  | cons forwarder rest ih =>
    have later := ih fun i before =>
      (resultAt_tail fates i).trans (failed (i + 1) (Nat.succ_lt_succ before))
    rw [forward_cons, failed 0 (Nat.zero_lt_succ _)]
    dsimp only
    rw [later]

theorem head?_forward (query : Message) (forwarders : List Forwarder) (fates : List Fate) :
    (forward query forwarders fates).1.head? = forwarders.head? := by
  cases forwarders with
  | nil => rfl
  | cons forwarder rest =>
    rw [forward_cons]
    split <;> rfl

theorem forward_prefix (query : Message) (forwarders : List Forwarder) (fates : List Fate) :
    (forward query forwarders fates).1 <+: forwarders := by
  induction forwarders generalizing fates with
  | nil => exact List.prefix_refl []
  | cons forwarder rest ih =>
    rw [forward_cons]
    split
    · exact List.prefix_append [forwarder] rest
    · exact (List.prefix_cons_inj forwarder).mpr (ih fates.tail)

def passedOn (asked : List Forwarder) (result : Except Fault Message) : Resolution where
  reply := result.map some
  asked := asked
  outcome := result.toOption.map fun reply =>
    if reply.rcode = Message.serverFailure then .servfail else .forwarded

theorem outcome_passedOn_ne (asked : List Forwarder) (result : Except Fault Message) :
    (passedOn asked result).outcome ≠ some .local := by
  cases result with
  | error fault => exact nofun
  | ok reply =>
    simp only [passedOn, Except.toOption, Option.map_some]
    split <;> exact nofun

/-- Nothing that is held here matters for a name that is unknown. -/
theorem resolveQuestion_of_unknown (unknown : names.knows question.name.text = false) :
    responder.resolveQuestion names fates query question =
      passedOn (forward query responder.forwarders fates).1
        (forward query responder.forwarders fates).2 := by
  rw [resolveQuestion, unknown, if_neg Bool.false_ne_true]
  generalize forward query responder.forwarders fates = forwarded
  obtain ⟨asked, _ | reply⟩ := forwarded <;> rfl

theorem asked_prefix (responder : Responder) (names : NameStore) (fates : List Fate) (data : Bytes) :
    (responder.resolve names fates data).asked <+: responder.forwarders := by
  unfold resolve
  split
  · exact List.nil_prefix
  · split
    · exact List.nil_prefix
    next question _ _ =>
      cases known : names.knows question.name.text with
      | true =>
        rw [resolveQuestion, known, if_pos rfl]
        exact List.nil_prefix
      | false =>
        rw [resolveQuestion_of_unknown known]
        exact forward_prefix _ _ _

end Responder

end Netboot.Dns
