import Netboot.Service

/-! What the calls of an opening leave open. -/

set_option autoImplicit false

namespace Netboot.Socket

variable {weather : Weather} {transport : Transport} {calls : List Call}

def Call.Keeps : Call → Prop
  | .create _ | .close => False
  | _ => True

theorem mem_of_mem_attempt {call : Call} (made : call ∈ (attempt weather calls).1) :
    call ∈ calls := by
  induction calls with
  | nil => exact made
  | cons first rest ih =>
    unfold attempt at made
    split at made
    · obtain rfl := List.mem_singleton.mp made
      exact List.mem_cons_self
    · obtain rfl | later := List.mem_cons.mp made
      · exact List.mem_cons_self
      · exact List.mem_cons_of_mem _ (ih later)

theorem attempt_eq_none_iff :
    (attempt weather calls).2 = none ↔ ∀ call ∈ calls, weather call = none := by
  induction calls with
  | nil => simp [attempt]
  | cons first rest ih =>
    rw [List.forall_mem_cons, ← ih, attempt]
    cases weather first with
    | none => simp
    | some failure => simp

theorem openAfter_close : openAfter weather (calls ++ [.close]) = openAfter weather calls - 1 := by
  simp [openAfter, opens, Nat.sub_add_eq]

theorem openAfter_failed {failure : Failure} (failed : weather (.create transport) = some failure) :
    openAfter weather [.create transport] = 0 := by
  simp [openAfter, opens, failed]

theorem openAfter_created (created : weather (.create transport) = none)
    (keep : ∀ call ∈ calls, call.Keeps) : openAfter weather (.create transport :: calls) = 1 := by
  have opened : calls.countP (opens weather) = 0 := by
    apply List.countP_eq_zero.mpr
    intro call member opening
    have keeps := keep call member
    cases call with
    | create => exact keeps
    | reuseAddress | broadcast | bindToDevice | bind | listen | setNonBlocking | close | detach =>
      cases opening
  have closed : calls.count .close = 0 := List.count_eq_zero.mpr fun member => keep _ member
  simp [openAfter, opens, created, opened, closed]

theorem keep_attempt {made : List Call} {failure? : Option Failure}
    (keep : ∀ call ∈ calls, call.Keeps) (tried : attempt weather calls = (made, failure?)) :
    ∀ call ∈ made, call.Keeps := by
  intro call member
  have same : made = (attempt weather calls).1 := by rw [tried]
  rw [same] at member
  exact keep call (mem_of_mem_attempt member)

theorem keep_setUp {made : List Call} {failure? : Option Failure}
    (keep : ∀ call ∈ calls, call.Keeps) (tried : attempt weather calls = (made, failure?)) :
    ∀ call ∈ made ++ [.setNonBlocking], call.Keeps :=
  List.forall_mem_append.mpr ⟨keep_attempt keep tried, by simp [Call.Keeps]⟩

theorem attempt_ne_none_iff :
    (attempt weather calls).2 ≠ none ↔ ∃ call ∈ calls, weather call ≠ none := by
  simp [attempt_eq_none_iff]

/-! ## Openings -/

/-- What an opening can come to: the calls it makes, and what it fails with. -/
inductive Opening (weather : Weather) (transport : Transport) (setup : List Call) :
    List Call → Option Failure → Prop where
  | uncreated {failure : Failure} : weather (.create transport) = some failure →
      Opening weather transport setup [.create transport] (some failure)
  | refused {made : List Call} {failure : Failure} : weather (.create transport) = none →
      attempt weather setup = (made, some failure) → failure.system = true →
      Opening weather transport setup (.create transport :: made ++ [.close])
        ((weather .close).or (some failure))
  | broken {made : List Call} {failure : Failure} : weather (.create transport) = none →
      attempt weather setup = (made, some failure) → failure.system = false →
      Opening weather transport setup (.create transport :: made) (some failure)
  | setUp {made : List Call} : weather (.create transport) = none →
      attempt weather setup = (made, none) →
      Opening weather transport setup (.create transport :: made ++ [.setNonBlocking])
        (weather .setNonBlocking)

theorem opening_openWith (weather : Weather) (transport : Transport) (setup : List Call) :
    Opening weather transport setup (openWith weather transport setup).1
      (openWith weather transport setup).2 := by
  unfold openWith
  split
  next failure uncreated => exact .uncreated uncreated
  next created =>
    split
    next made failure tried =>
      split
      next system => exact .refused created tried system
      next system => exact .broken created tried (Bool.eq_false_iff.mpr system)
    next made tried => exact .setUp created tried

namespace Opening

variable {setup : List Call} {failure? : Option Failure}

theorem openAfter_eq_one (keep : ∀ call ∈ setup, call.Keeps)
    (opening : Opening weather transport setup calls failure?) (opened : failure? = none) :
    openAfter weather calls = 1 := by
  cases opening with
  | uncreated | broken => cases opened
  | refused => cases closing : weather .close <;> rw [closing] at opened <;> cases opened
  | setUp created tried =>
    exact openAfter_created created (keep_setUp keep tried)

/-- Nothing is left of an opening that the system refuses, unless only the last call was refused. -/
theorem openAfter_eq_zero_iff {failure : Failure} (keep : ∀ call ∈ setup, call.Keeps)
    (opening : Opening weather transport setup calls failure?) (failed : failure? = some failure)
    (system : failure.system = true) :
    openAfter weather calls = 0 ↔ ∃ call ∈ .create transport :: setup, weather call ≠ none := by
  simp only [List.mem_cons, exists_eq_or_imp, ← attempt_ne_none_iff]
  cases opening with
  | uncreated uncreated =>
    have fails : weather (.create transport) ≠ none := by simp [uncreated]
    exact iff_of_true (openAfter_failed uncreated) (.inl fails)
  | refused created tried _ =>
    -- The clean-up gives the socket up, whatever comes of that.
    have fails : (attempt weather setup).2 ≠ none := by simp [tried]
    have closed := openAfter_close.trans
      (congrArg (· - 1) (openAfter_created created (keep_attempt keep tried)))
    exact iff_of_true closed (.inr fails)
  | broken created tried other =>
    cases failed
    cases system.symm.trans other
  | setUp created tried =>
    -- Only the last call can have failed, and nobody cleans up after that one.
    have stays := openAfter_created created (keep_setUp keep tried)
    have succeeds : (attempt weather setup).2 = none := by rw [tried]
    apply iff_of_false
    · exact fun closed => absurd (stays.symm.trans closed) nofun
    · rintro (fails | fails)
      · exact fails created
      · exact fails succeeds

end Opening

/-! ## Setups -/

theorem keep_udpSetup (host : String) (port : Int) (broadcast : Bool) (device : Option String) :
    ∀ call ∈ udpSetup host port broadcast device, call.Keeps := by
  intro call member
  obtain ((first | maybe) | restricted) | last := by
    simpa only [udpSetup, List.mem_append] using member
  · obtain rfl := List.mem_singleton.mp first
    trivial
  · cases broadcast with
    | false => cases maybe
    | true =>
      obtain rfl := List.mem_singleton.mp maybe
      trivial
  · obtain ⟨device, -, rfl⟩ := Option.map_eq_some_iff.mp (Option.mem_toList.mp restricted)
    trivial
  · obtain rfl := List.mem_singleton.mp last
    trivial

theorem keep_tcpSetup (host : String) (port : Int) :
    ∀ call ∈ tcpSetup host port, call.Keeps := by
  simp [tcpSetup, Call.Keeps]

theorem keep_setup (host : Host) (restrictable : Bool) (service : Service) :
    ∀ call ∈ service.setup host restrictable, call.Keeps := by
  cases service with
  | pxe | tftp | dhcp | dns => exact keep_udpSetup _ _ _ _
  | http => exact keep_tcpSetup _ _

end Netboot.Socket
