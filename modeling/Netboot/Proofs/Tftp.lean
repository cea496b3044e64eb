import Mathlib
import Netboot.Proofs.Files.Resolve
import Netboot.Tftp

/-! Requests for files stay in the root as long as no link leads back to itself. -/

set_option autoImplicit false

namespace Netboot.Tftp

open Files (Leads Settled Shallow Node Path)

variable {files : Node} {root base path real : Path} {name mode : Bytes} {write : Bool}
  {transfer : Transfer}

theorem prefix_of_locate (shallow : Shallow files) (rooted : Leads files [] root base)
    (located : locate files root name = .ok path) : base <+: path := by
  unfold locate at located
  rw [Files.resolve_of_leads shallow rooted] at located
  change (Except.ok base >>= _) = _ at located
  obtain ⟨start, same, located⟩ := ok_of_bind located
  obtain rfl := Except.ok.inj same
  obtain ⟨reached, -, located⟩ := ok_of_bind located
  split at located
  next inside => exact Except.ok.inj located ▸ List.isPrefixOf_iff_prefix.mp inside
  · cases located

/-- The real path of a request decides what it is for. -/
theorem locate_of_leads (shallow : Shallow files) (rooted : Leads files [] root base)
    (leads : Leads files [] (root ++ requestedNames name) real) :
    locate files root name = if base <+: real then .ok real else .error (.outside name) := by
  obtain ⟨depth, within⟩ := leads
  -- The names of the root lead to its real path, from which the requested names go on.
  obtain ⟨reached, front, back⟩ := within.split
  obtain rfl := front.leads.unique rooted
  have itself : Leads files [] reached reached := (rooted.settled .nil).leads
  unfold locate
  rw [Files.resolve_of_leads shallow rooted]
  simp only [Except.mapError, bind, Except.bind]
  rw [Files.resolve_of_leads shallow (itself.append back.leads)]
  simp only [List.isPrefixOf_iff_prefix]
  rfl

theorem sent_of_select (selected : select files root write name mode = .ok transfer) :
    ∃ path, locate files root name = .ok path ∧ transfer.path = path ∧
      Files.read files path = .ok transfer.rest := by
  unfold select at selected
  split at selected
  · cases selected
  obtain ⟨path, located, opened⟩ := ok_of_bind selected
  obtain ⟨content, got, opened⟩ := ok_of_bind opened
  obtain rfl := Except.ok.inj opened
  exact ⟨path, located, rfl, ok_of_mapError got⟩

/-- A request whose name has a real path is for the file at that path, which holds no link; it is
refused when that path is not at or below the real root, and what is sent otherwise is the content
of that file. Whatever else a request is for is at or below the real root by its names, but some
link on the way led back to itself. -/
theorem requests_stay_in_root (shallow : Shallow files) (rooted : Leads files [] root base)
    (name : Bytes) :
    (∀ real, Leads files [] (root ++ requestedNames name) real →
      Settled files real ∧
      locate files root name = (if base <+: real then .ok real else .error (.outside name)) ∧
      ∀ write mode transfer, select files root write name mode = .ok transfer →
        base <+: real ∧ transfer.path = real ∧ files.at? real = some (.file transfer.rest)) ∧
    ∀ path, locate files root name = .ok path →
      base <+: path ∧
      (Leads files [] (root ++ requestedNames name) path ∨
        ∀ real, ¬ Leads files [] (root ++ requestedNames name) real) := by
  constructor
  · intro real leads
    have settled := leads.settled .nil
    have decided := locate_of_leads shallow rooted leads
    refine ⟨settled, decided, fun write mode transfer selected => ?_⟩
    obtain ⟨path, located, rfl, got⟩ := sent_of_select selected
    rw [located] at decided
    split at decided
    next inside =>
      obtain same := Except.ok.inj decided
      exact ⟨inside, same, Files.at?_of_read settled (same ▸ got)⟩
    · cases decided
  · intro path located
    refine ⟨prefix_of_locate shallow rooted located, ?_⟩
    -- A link that leads back to itself leaves the name without a real path.
    by_cases ends : ∃ real, Leads files [] (root ++ requestedNames name) real
    · obtain ⟨real, leads⟩ := ends
      rw [locate_of_leads shallow rooted leads] at located
      split at located
      · exact .inl (Except.ok.inj located ▸ leads)
      · cases located
    · exact .inr (not_exists.mp ends)

/-- In the root a file, a link to it, a link to a file outside and a link to itself. -/
def leakyFiles : Node :=
  .dir [(Bytes.ofString "secret", .file (Bytes.ofString "s")),
    (Bytes.ofString "tftp", .dir [
      (Bytes.ofString "kernel", .file (Bytes.ofString "k")),
      (Bytes.ofString "latest", .link (Bytes.ofString "kernel")),
      (Bytes.ofString "out", .link (Bytes.ofString "../secret")),
      (Bytes.ofString "loop", .link (Bytes.ofString "loop"))])]

def leakyRoot : Path := [Bytes.ofString "tftp"]

theorem shallow_leakyFiles : Shallow leakyFiles := by
  apply Files.shallow_of_linkPaths
  decide

theorem leads_leakyRoot : Leads leakyFiles [] leakyRoot leakyRoot := by
  apply Files.leads_of_walk 0
  cbv

theorem requests_stay_in_root_of_link :
    Shallow leakyFiles ∧ Leads leakyFiles [] leakyRoot leakyRoot ∧
      locate leakyFiles leakyRoot (Bytes.ofString "latest") =
        .ok (leakyRoot ++ [Bytes.ofString "kernel"]) ∧
      locate leakyFiles leakyRoot (Bytes.ofString "out") =
        .error (.outside (Bytes.ofString "out")) := by
  refine ⟨shallow_leakyFiles, leads_leakyRoot, ?_, ?_⟩
  · have leads : Leads leakyFiles [] (leakyRoot ++ requestedNames (Bytes.ofString "latest"))
        (leakyRoot ++ [Bytes.ofString "kernel"]) := by
      apply Files.leads_of_walk 1
      cbv
    rw [((requests_stay_in_root shallow_leakyFiles leads_leakyRoot _).1 _ leads).2.1]
    exact if_pos (List.prefix_append _ _)
  · have leads : Leads leakyFiles [] (leakyRoot ++ requestedNames (Bytes.ofString "out"))
        [Bytes.ofString "secret"] := by
      apply Files.leads_of_walk 1
      cbv
    rw [((requests_stay_in_root shallow_leakyFiles leads_leakyRoot _).1 _ leads).2.1]
    exact if_neg (by decide)

/-- Behind the link to itself the rest of a name is followed by its text alone, so the request is
for a link, and what is sent is the file outside. -/
theorem request_behind_loop_leaves_root :
    Shallow leakyFiles ∧ Leads leakyFiles [] leakyRoot leakyRoot ∧
      locate leakyFiles leakyRoot (Bytes.ofString "loop/../out") =
        .ok (leakyRoot ++ [Bytes.ofString "out"]) ∧
      Files.IsLink leakyFiles (leakyRoot ++ [Bytes.ofString "out"]) (Bytes.ofString "../secret") ∧
      Leads leakyFiles [] (leakyRoot ++ [Bytes.ofString "out"]) [Bytes.ofString "secret"] ∧
      ¬ leakyRoot <+: [Bytes.ofString "secret"] ∧
      (select leakyFiles leakyRoot false (Bytes.ofString "loop/../out")
        (Bytes.ofString "octet")).map (·.rest) = .ok (Bytes.ofString "s") := by
  refine ⟨shallow_leakyFiles, leads_leakyRoot, by cbv, by cbv, ?_, by decide, by cbv⟩
  apply Files.leads_of_walk 1
  cbv

end Netboot.Tftp
