import Mathlib
import Netboot.Bootstrap
import Netboot.Proofs.Settings
import Netboot.Proofs.Socket
import Netboot.Supervisor.Launch

/-! Whether a launch binds all of its listeners or none.

It does if all of them bind. If one does not, the sockets that are open by then are closed and nothing
is started, but only where the system refuses a call: the socket's own clean-up and the supervisor's
both pass over any other failure, as that of a port that is out of range.
-/

set_option autoImplicit false

namespace Netboot.Supervisor

namespace Handle

variable {α : Type} {handle : Handle α} {bound listeners early late : List α} {listener : α}
  {failure : Failure}

theorem closeAll_cons (closes : (handle.close listener).2 = none) :
    handle.closeAll (listener :: late) =
      ((handle.close listener).1 :: (handle.closeAll late).1, (handle.closeAll late).2) := by
  rw [closeAll]
  split
  next same => cases closes.symm.trans (congrArg Prod.snd same)
  next same => rw [same]

theorem closeAll_of_closing (closing : ∀ listener ∈ listeners, (handle.close listener).2 = none) :
    handle.closeAll listeners = (listeners.map fun listener => (handle.close listener).1, none) := by
  induction listeners with
  | nil => rfl
  | cons first rest ih =>
    obtain ⟨here, later⟩ := List.forall_mem_cons.mp closing
    rw [closeAll_cons here, ih later]
    rfl

theorem closeAll_eq_none_iff :
    (handle.closeAll listeners).2 = none ↔
      ∀ listener ∈ listeners, (handle.close listener).2 = none := by
  constructor
  · intro closed
    induction listeners with
    | nil => exact fun _ member => absurd member List.not_mem_nil
    | cons first rest ih =>
      rw [closeAll] at closed
      split at closed
      · cases closed
      next same => exact List.forall_mem_cons.mpr ⟨congrArg Prod.snd same, ih closed⟩
  · intro closing
    rw [closeAll_of_closing closing]

theorem bindAll_cons (binds : (handle.bind listener).2 = none) :
    handle.bindAll bound (listener :: late) =
      handle.bindAll (bound ++ [(handle.bind listener).1]) late := by
  rw [bindAll]
  split
  next same => rw [same]
  next same => cases binds.symm.trans (congrArg Prod.snd same)

theorem bindAll_append (binding : ∀ listener ∈ early, (handle.bind listener).2 = none) :
    handle.bindAll bound (early ++ late) =
      handle.bindAll (bound ++ early.map fun listener => (handle.bind listener).1) late := by
  induction early generalizing bound with
  | nil => simp
  | cons first rest ih =>
    obtain ⟨here, later⟩ := List.forall_mem_cons.mp binding
    rw [List.cons_append, bindAll_cons here, ih later, List.map_cons, List.append_assoc]
    rfl

theorem launch_of_binding (binding : ∀ listener ∈ listeners, (handle.bind listener).2 = none) :
    handle.launch listeners =
      { bound := listeners.map fun listener => (handle.bind listener).1
        threads := listeners.map fun listener => handle.name (handle.bind listener).1 } := by
  have all : handle.bindAll [] (listeners ++ []) = _ := bindAll_append binding
  rw [List.append_nil] at all
  simp [launch, all, bindAll]

theorem launch_of_refused (binding : ∀ listener ∈ early, (handle.bind listener).2 = none)
    (failed : (handle.bind listener).2 = some failure) (system : failure.system = true) :
    let closing := handle.closeAll (early.map fun listener => (handle.bind listener).1)
    handle.launch (early ++ listener :: late) =
      { bound := closing.1
        rest := (handle.bind listener).1 :: late
        fault := some (closing.2.elim (.refused (handle.name (handle.bind listener).1) failure)
          .broke) } := by
  simp only [launch, bindAll_append binding]
  rw [bindAll]
  cases binds : handle.bind listener with | mk tried trouble =>
  rw [binds] at failed
  cases failed
  simp [system]

theorem launch_of_broken (binding : ∀ listener ∈ early, (handle.bind listener).2 = none)
    (failed : (handle.bind listener).2 = some failure) (other : failure.system = false) :
    handle.launch (early ++ listener :: late) =
      { bound := early.map fun listener => (handle.bind listener).1
        rest := (handle.bind listener).1 :: late
        fault := some (.broke failure) } := by
  simp only [launch, bindAll_append binding]
  rw [bindAll]
  cases binds : handle.bind listener with | mk tried trouble =>
  rw [binds] at failed
  cases failed
  simp [other]

end Handle

/-! ## The services of a host -/

variable {host : Host} {restrictable : Bool} {crew early late : List (Service × Socket.Weather)}
  {member : Service × Socket.Weather} {failure : Failure}

namespace Station

variable {station : Station} {stations : List Station}

/-- A station whose socket is open, and no other. -/
structure Bound (station : Station) : Prop where
  holds : station.listener.holdsSocket = true
  once : station.openSockets = 1

theorem bind_fresh :
    (fresh member).bind host restrictable =
      let (calls, failure) := member.1.bind host restrictable member.2
      ({ listener := ⟨member.1, failure.isNone⟩, weather := member.2, calls }, failure) := rfl

theorem bound_of_binds (binds : (member.1.bind host restrictable member.2).2 = none) :
    ((fresh member).bind host restrictable).1.Bound := by
  have opening := Socket.opening_openWith member.2 member.1.transport
    (member.1.setup host restrictable)
  constructor
  · rw [bind_fresh]
    exact Option.isNone_iff_eq_none.mpr binds
  · exact opening.openAfter_eq_one (Socket.keep_setup host restrictable member.1) binds

theorem Bound.close_failure (bound : station.Bound) : station.close.2 = station.weather .close := by
  simp only [close, Listener.close, bound.holds]
  cases station.weather .close <;> rfl

theorem Bound.openSockets_close (bound : station.Bound) : station.close.1.openSockets = 0 := by
  have closed : Socket.openAfter station.weather (station.calls ++ [.close]) = 0 :=
    Socket.openAfter_close.trans (congrArg (· - 1) bound.once)
  simp only [close, Listener.close, bound.holds]
  cases station.weather .close <;> exact closed

/-- The stations of services that have their sockets. -/
def posted (host : Host) (restrictable : Bool) (crew : List (Service × Socket.Weather)) :
    List Station :=
  crew.map fun member => ((fresh member).bind host restrictable).1

theorem bound_posted
    (binds : ∀ member ∈ crew, (member.1.bind host restrictable member.2).2 = none) :
    ∀ station ∈ posted host restrictable crew, station.Bound :=
  List.forall_mem_map.mpr fun member here => bound_of_binds (binds member here)

theorem closeAll_posted_eq_none_iff
    (binds : ∀ member ∈ crew, (member.1.bind host restrictable member.2).2 = none) :
    ((handle host restrictable).closeAll (posted host restrictable crew)).2 = none ↔
      ∀ member ∈ crew, member.2 .close = none := by
  rw [Handle.closeAll_eq_none_iff, posted, List.forall_mem_map]
  apply forall₂_congr
  intro member here
  exact iff_of_eq (congrArg (· = none) (bound_of_binds (binds member here)).close_failure)

theorem openSockets_closeAll (bound : ∀ station ∈ stations, station.Bound)
    (closed : ((handle host restrictable).closeAll stations).2 = none) :
    ∀ station ∈ ((handle host restrictable).closeAll stations).1, station.openSockets = 0 := by
  rw [Handle.closeAll_of_closing (Handle.closeAll_eq_none_iff.mp closed)]
  exact List.forall_mem_map.mpr fun station here => (bound station here).openSockets_close

end Station

namespace Launch

open Station (fresh posted)

structure Complete (launch : Launch Station) (services : List Service) : Prop where
  quiet : launch.fault = none
  manned : launch.bound.map (·.listener.service) = services
  all : launch.rest = []
  bound : ∀ station ∈ launch.bound, station.Bound
  started : launch.threads = services.map (·.name)

/-- A refusal is raised and nothing is left of the launch: no socket is open, no listener after the
refused one was touched, and no thread was started. -/
structure CalledOff (launch : Launch Station) (name : String) (failure : Failure) : Prop where
  raised : launch.fault = some (.refused name failure)
  closed : ∀ station ∈ launch.bound ++ launch.rest, station.openSockets = 0
  spared : ∀ station ∈ launch.rest.tail, station.calls = []
  idle : launch.threads = []

theorem complete_of_binds
    (binds : ∀ member ∈ crew, (member.1.bind host restrictable member.2).2 = none) :
    ((Station.handle host restrictable).launch (crew.map fresh)).Complete (crew.map (·.1)) := by
  rw [Handle.launch_of_binding (List.forall_mem_map.mpr binds), List.map_map, List.map_map]
  constructor
  · rfl
  · exact List.map_map
  · rfl
  · exact Station.bound_posted binds
  · rw [List.map_map]
    rfl

section Failing

variable (binds : ∀ member ∈ early, (member.1.bind host restrictable member.2).2 = none)
  (failed : (member.1.bind host restrictable member.2).2 = some failure)
include binds failed

theorem launch_of_refused (system : failure.system = true) :
    let closing := (Station.handle host restrictable).closeAll (posted host restrictable early)
    (Station.handle host restrictable).launch ((early ++ member :: late).map fresh) =
      { bound := closing.1
        rest := ((fresh member).bind host restrictable).1 :: late.map fresh
        fault := some (closing.2.elim (.refused member.1.name failure) .broke) } := by
  rw [List.map_append, List.map_cons,
    Handle.launch_of_refused (List.forall_mem_map.mpr binds) failed system, List.map_map]
  rfl

theorem launch_of_broken (other : failure.system = false) :
    (Station.handle host restrictable).launch ((early ++ member :: late).map fresh) =
      { bound := posted host restrictable early
        rest := ((fresh member).bind host restrictable).1 :: late.map fresh
        fault := some (.broke failure) } := by
  rw [List.map_append, List.map_cons,
    Handle.launch_of_broken (List.forall_mem_map.mpr binds) failed other, List.map_map]
  rfl

/-- A launch that the system stops is called off, unless only the last call of the opening was refused
or a socket bound before fails to close. -/
theorem calledOff_iff_of_system (system : failure.system = true) :
    ((Station.handle host restrictable).launch
        ((early ++ member :: late).map fresh)).CalledOff member.1.name failure ↔
      (∃ call ∈ .create member.1.transport :: member.1.setup host restrictable,
        member.2 call ≠ none) ∧ ∀ member ∈ early, member.2 .close = none := by
  have own := (Socket.opening_openWith ..).openAfter_eq_zero_iff
    (Socket.keep_setup host restrictable member.1) failed system
  rw [launch_of_refused binds failed system, ← Station.closeAll_posted_eq_none_iff binds]
  constructor
  · rintro ⟨raised, closed, -, -⟩
    refine ⟨own.mp (closed _ (List.mem_append_right _ List.mem_cons_self)), ?_⟩
    -- A socket that fails to close would be told of instead of the refusal.
    cases trouble : ((Station.handle host restrictable).closeAll
      (posted host restrictable early)).2 with
    | none => rfl
    | some failure => simp [trouble] at raised
  · rintro ⟨fails, quiet⟩
    have closed := Station.openSockets_closeAll (Station.bound_posted binds) quiet
    have spared : ∀ station ∈ late.map fresh, station.calls = [] :=
      List.forall_mem_map.mpr fun _ _ => rfl
    refine ⟨by simp [quiet], ?_, spared, rfl⟩
    intro station member
    -- Those bound before are closed, the refused one has closed its own, the others have none.
    rcases List.mem_append.mp member with before | here
    · exact closed station before
    · rcases List.mem_cons.mp here with rfl | after
      · exact own.mpr fails
      · have untouched := spared station after
        simp [Station.openSockets, untouched, Socket.openAfter]

end Failing

/-- If all services bind, a launch is complete. Otherwise it raises a fault, starts nothing and leaves
the listeners after the failing one alone. It is then called off exactly if the system reports the
failure, a call before the last of the opening fails, and those bound before can be closed; after a
failure of another kind they all stay open. -/
theorem launch_calledOff_iff (host : Host) (restrictable : Bool)
    (crew : List (Service × Socket.Weather)) :
    let launch := (Station.handle host restrictable).launch (crew.map fresh)
    ((∀ member ∈ crew, (member.1.bind host restrictable member.2).2 = none) →
      launch.Complete (crew.map (·.1))) ∧
    ∀ early failing late failure, crew = early ++ failing :: late →
      (∀ member ∈ early, (member.1.bind host restrictable member.2).2 = none) →
      (failing.1.bind host restrictable failing.2).2 = some failure →
      launch.fault.isSome = true ∧ launch.threads = [] ∧ launch.rest.tail = late.map fresh ∧
      (launch.CalledOff failing.1.name failure ↔
        failure.system = true ∧
        (∃ call ∈ .create failing.1.transport :: failing.1.setup host restrictable,
          failing.2 call ≠ none) ∧
        ∀ member ∈ early, member.2 .close = none) ∧
      (failure.system = false →
        launch.fault = some (.broke failure) ∧ launch.bound.length = early.length ∧
        ∀ station ∈ launch.bound, station.Bound) := by
  intro launch
  refine ⟨complete_of_binds, ?_⟩
  rintro early failing late failure rfl binds failed
  -- Only a failure that the system reports is caught on the way.
  cases kind : failure.system with
  | true =>
    have off : launch.CalledOff _ _ ↔ _ := calledOff_iff_of_system binds failed kind
    have shape : launch = _ := launch_of_refused binds failed kind
    rw [off, shape]
    simp
  | false =>
    have shape : launch = _ := launch_of_broken binds failed kind
    rw [shape]
    refine ⟨rfl, rfl, rfl, ?_, ?_⟩
    · apply iff_of_false
      · intro off
        cases off.raised
      · exact fun ⟨system, _⟩ => absurd system nofun
    · intro _
      exact ⟨rfl, List.length_map _, Station.bound_posted binds⟩

/-! ## An error that is not the system's -/

def calm : Socket.Weather := fun _ => none

def bindFails (failure : Failure) : Socket.Weather
  | .bind _ _ => some failure
  | _ => none

def denied : Failure := ⟨"PermissionError", "[Errno 13] Permission denied", true⟩

def odd : Failure := ⟨"ValueError", "odd", false⟩

def bareSettings : Settings where
  serverRoot := "."
  interface := "eth0"
  staticCidr := "192.168.123.1/24"
  tftpRoot := some "./tftp"

def leasedBase : Bootstrap.Base where
  ip := .ofNat 0xc0a87b02
  gateway := .ofNat 0xc0a87b01
  forwarders := []
  mode := .proxy ⟨.ofNat 0xc0a87b00, 24, by decide, by decide⟩

def leasedHost : Host where
  ip := leasedBase.ip
  gateway := leasedBase.gateway
  forwarders := [Bootstrap.defaultForwarder]
  mode := leasedBase.mode
  interface := "eth0"
  serverRoot := "."
  tftpRoot := "./tftp"
  controlplane := "controlplane.talos."

/-- All services get their ports; and of four, the third is denied its own. -/
theorem launch_calledOff_iff_of_denied_port :
    let handle := Station.handle leasedHost true
    let crew := Service.all.map (·, calm)
    let early := [(Service.pxe, calm), (Service.tftp, calm)]
    let refused := early ++ (.http, bindFails denied) :: [(.dns, calm)]
    (handle.launch (crew.map fresh)).Complete Service.all ∧
      (handle.launch (refused.map fresh)).CalledOff "http" denied := by
  intro handle crew early refused
  obtain ⟨complete, -⟩ := launch_calledOff_iff leasedHost true crew
  obtain ⟨-, failing⟩ := launch_calledOff_iff leasedHost true refused
  obtain ⟨-, -, -, off, -⟩ := failing early _ _ _ rfl (by decide) rfl
  refine ⟨complete (by decide), off.mpr ⟨rfl, ?_, by decide⟩⟩
  exact ⟨.bind _ _, .tail _ (.tail _ (.head _)), nofun⟩

theorem bareSettings_read : Settings.ofVariables [] = .ok bareSettings := by
  have cidr : Cidr.parse (Settings.textOr [] "STATIC_CIDR" "192.168.123.1/24") =
      .ok ⟨.ofNat 0xc0a87b01, 24, by decide⟩ := by
    decide
  rw [Settings.ofVariables_of_unset cidr rfl rfl rfl (by decide), bareSettings,
    ← Settings.absoluteName_controlplane]
  rfl

/-- A bind that raises an error of another kind: the sockets opened so far stay open, that of the failing
service among them, and the error is not one of binding. -/
theorem launch_not_calledOff_of_odd_error :
    let launch := (Station.handle leasedHost true).launch
      ([(.pxe, calm), (.tftp, bindFails odd), (.http, calm)].map fresh)
    Settings.ofVariables [] = .ok bareSettings ∧
      Bootstrap.host bareSettings leasedBase = .ok leasedHost ∧
      launch.fault = some (.broke odd) ∧
      (launch.bound ++ launch.rest).map (·.openSockets) = [1, 1, 0] ∧
      ∀ name failure, ¬ launch.CalledOff name failure := by
  intro launch
  refine ⟨bareSettings_read, rfl, rfl, rfl, ?_⟩
  intro name failure off
  cases off.raised

end Launch

end Netboot.Supervisor
