import Netboot.Proofs.Result
import Netboot.Script

/-! What the boot section of a profile renders to, when it has nothing to boot, and what the script of
an error shows.
-/

set_option autoImplicit false

namespace Netboot

def Profile.Store.bootSection (document : Json) : Json :=
  let boot := (document.field? "boot").getD .null
  if boot.truthy then boot else .obj []

namespace Script

variable {document : Json} {fields : List (CodePoints × Json)} {text : CodePoints}

/-! ## Errors -/

/-- The script has a line that prints the message. -/
def Shows (script message : String) : Prop :=
  ∃ front back, script = ofLines ("#!ipxe" :: front ++ ("echo " ++ message) :: back)

theorem ofPoints_ofString (lines : List String) :
    ofPoints (lines.map CodePoints.ofString) = CodePoints.ofString (ofLines lines) := by
  induction lines with
  | nil => rfl
  | cons line rest ih =>
    rw [ofLines] at ih ⊢
    rw [ofPoints, List.map_cons, List.flatMap_cons, ← ofPoints, ih, List.map_cons, String.join_cons,
      CodePoints.ofString_append, CodePoints.ofString_append]
    rfl

theorem exists_error (message : String) :
    ∃ script, error (CodePoints.ofString message) = CodePoints.ofString script ∧
      Shows script message := by
  refine ⟨_, ?_, ["echo ======================================", "echo Talos PXE - Error",
    "echo ======================================"], ["echo.", "echo Dropping to iPXE shell.",
    "echo Type 'reboot' to restart.", "shell"], rfl⟩
  rw [← ofPoints_ofString, error, ← CodePoints.ofString_append]
  rfl

/-! ## Profiles -/

inductive NoKernel (document : Json) : Prop where
  | absent (gone : document.field? "boot" = none)
  | falsy (boot : Json) (given : document.field? "boot" = some boot)
      (counts : boot.truthy = false)
  | unset (fields : List (CodePoints × Json))
      (given : document.field? "boot" = some (.obj fields))
      (unset : (((Json.obj fields).field? "kernel").getD .null).truthy = false)

/-- What a profile with a kernel renders to: the kernel and its arguments, each initial ramdisk, and
the command to boot them. -/
inductive Renders (document : Json) : CodePoints → Prop where
  | intro {fields : List (CodePoints × Json)} {kernel : Json} {args initrd : List CodePoints}
      (given : document.field? "boot" = some (.obj fields))
      (named : (Json.obj fields).field? "kernel" = some kernel) (counts : kernel.truthy = true)
      (arguments : items (((Json.obj fields).field? "args").getD .null) = .ok args)
      (ramdisks : items (((Json.obj fields).field? "initrd").getD .null) = .ok initrd) :
      Renders document (CodePoints.ofString "#!ipxe\nkernel " ++ kernel.plain ++
        args.flatMap (CodePoint.char ' ' :: ·) ++ CodePoints.ofString "\n" ++
        initrd.flatMap (CodePoints.ofString "initrd " ++ · ++ CodePoints.ofString "\n") ++
        CodePoints.ofString "boot\n")

variable {boot kernel : Json}

theorem bootSection_of_truthy (given : document.field? "boot" = some boot)
    (counts : boot.truthy = true) : Profile.Store.bootSection document = boot := by
  rw [Profile.Store.bootSection, given, Option.getD_some]
  exact if_pos counts

theorem profile_of_falsy (unset : (((Json.obj fields).field? "kernel").getD .null).truthy = false) :
    profile (.obj fields) = .error .noKernel := by
  unfold profile
  simp only [unset]
  rfl

theorem profile_of_kernel (named : (Json.obj fields).field? "kernel" = some kernel)
    (counts : kernel.truthy = true) : profile (.obj fields) = do
      let args ← items (((Json.obj fields).field? "args").getD .null)
      let initrd ← items (((Json.obj fields).field? "initrd").getD .null)
      return ofPoints (CodePoints.ofString "#!ipxe" ::
        (CodePoints.ofString "kernel " ++ kernel.plain ++ args.flatMap (CodePoint.char ' ' :: ·)) ::
        initrd.map (CodePoints.ofString "initrd " ++ ·) ++ [CodePoints.ofString "boot"]) := by
  rw [profile]
  simp only [named, Option.getD_some, counts]
  rfl

theorem profile_of_noKernel (bare : NoKernel document) :
    profile (Profile.Store.bootSection document) = .error .noKernel := by
  cases bare with
  | absent gone =>
    rw [Profile.Store.bootSection, gone]
    rfl
  | falsy boot given counts =>
    rw [Profile.Store.bootSection, given, Option.getD_some, counts]
    rfl
  | unset fields given unset =>
    rw [Profile.Store.bootSection, given, Option.getD_some]
    split
    · exact profile_of_falsy unset
    · rfl

theorem profile_of_renders (renders : Renders document text) :
    profile (Profile.Store.bootSection document) = .ok text := by
  cases renders with
  | @intro fields kernel args initrd given named counts arguments ramdisks =>
    have filled : (Json.obj fields).truthy = true := by
      cases fields with
      | nil => cases named
      | cons field rest => rfl
    rw [bootSection_of_truthy given filled, profile_of_kernel named counts, arguments, ramdisks]
    change Except.ok (ofPoints _) = _
    simp only [ofPoints, List.flatMap_append, List.flatMap_cons, List.flatMap_map, List.flatMap_nil,
      List.append_nil, List.append_assoc, List.cons_append]
    rfl

theorem items_ne_noKernel (value : Json) : items value ≠ .error .noKernel := by
  unfold items
  split
  · nofun
  split <;> nofun

/-- A profile has nothing to boot, or a script, or a boot section that cannot be rendered. -/
theorem profile_cases (document : Json) : NoKernel document ∨ (∃ text, Renders document text) ∨
    ∃ fault, profile (Profile.Store.bootSection document) = .error fault ∧ fault ≠ .noKernel := by
  cases given : document.field? "boot" with
  | none => exact .inl (.absent given)
  | some boot =>
    cases counts : boot.truthy with
    | false => exact .inl (.falsy boot given counts)
    | true =>
      rw [bootSection_of_truthy given counts]
      cases boot with
      | obj fields =>
        cases named : (Json.obj fields).field? "kernel" with
        | none => exact .inl (.unset fields given (by rw [named]; rfl))
        | some kernel =>
          cases set : kernel.truthy with
          | false => exact .inl (.unset fields given (by rw [named]; exact set))
          | true =>
            rw [profile_of_kernel named set]
            cases arguments : items (((Json.obj fields).field? "args").getD .null) with
            | error fault =>
              exact .inr (.inr ⟨fault, rfl, fun same => items_ne_noKernel _ (same ▸ arguments)⟩)
            | ok args =>
              cases ramdisks : items (((Json.obj fields).field? "initrd").getD .null) with
              | error fault =>
                exact .inr (.inr ⟨fault, rfl, fun same => items_ne_noKernel _ (same ▸ ramdisks)⟩)
              | ok initrd => exact .inr (.inl ⟨_, .intro given named set arguments ramdisks⟩)
      | _ => exact .inr (.inr ⟨.notObject, rfl, nofun⟩)

theorem profile_eq_noKernel_iff :
    profile (Profile.Store.bootSection document) = .error .noKernel ↔ NoKernel document := by
  refine ⟨fun failed => ?_, profile_of_noKernel⟩
  obtain bare | ⟨text, renders⟩ | ⟨fault, other, differs⟩ := profile_cases document
  · exact bare
  · cases failed.symm.trans (profile_of_renders renders)
  · exact absurd (Except.error.inj (other.symm.trans failed)) differs

theorem profile_eq_ok_iff :
    profile (Profile.Store.bootSection document) = .ok text ↔ Renders document text := by
  refine ⟨fun rendered => ?_, profile_of_renders⟩
  obtain bare | ⟨other, renders⟩ | ⟨fault, failed, -⟩ := profile_cases document
  · cases rendered.symm.trans (profile_of_noKernel bare)
  · exact Except.ok.inj (rendered.symm.trans (profile_of_renders renders)) ▸ renders
  · cases rendered.symm.trans failed

end Script

end Netboot
