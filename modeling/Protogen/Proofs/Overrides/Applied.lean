import Protogen.Overrides

/-!
# What the overrides make of a file

The overrides go on a file if it has one message and the message then has a name.
What comes out is `applied`: another package and options if a package is asked
for, another name of the message if one is asked for, and always the file name
that belongs to both.
-/

namespace Protogen

namespace Overrides

open Descriptor

/-- The file of the message `m` with the overrides on. -/
def applied (o : Overrides) (file : FileDescriptor) (m : MessageDescriptor) : FileDescriptor :=
  { o.onPackage file with
    messages := [o.onMessage m]
    name? := some (Name.canonicalFile (o.onPackage file).package (o.onMessage m).name) }

/-- The package in force once the overrides are on. -/
def packageOn (o : Overrides) (file : FileDescriptor) : String := o.package?.getD file.package

/-- The name of the message once the overrides are on. -/
def nameOn (o : Overrides) (m : MessageDescriptor) : String := o.messageName?.getD m.name

@[simp] theorem package_onPackage (o : Overrides) (file : FileDescriptor) :
    (o.onPackage file).package = o.packageOn file := by
  rcases o with ⟨_ | package, name?⟩ <;> rfl

@[simp] theorem name_onMessage (o : Overrides) (m : MessageDescriptor) :
    (o.onMessage m).name = o.nameOn m := by
  rcases o with ⟨package?, _ | name⟩ <;> rfl

@[simp] theorem nested_onMessage (o : Overrides) (m : MessageDescriptor) :
    (o.onMessage m).nested = m.nested := by
  rcases o with ⟨package?, _ | name⟩ <;> rfl

@[simp] theorem fields_onMessage (o : Overrides) (m : MessageDescriptor) :
    (o.onMessage m).body.fields = m.body.fields := by
  rcases o with ⟨package?, _ | name⟩ <;> rfl

@[simp] theorem enums_onMessage (o : Overrides) (m : MessageDescriptor) :
    (o.onMessage m).body.enums = m.body.enums := by
  rcases o with ⟨package?, _ | name⟩ <;> rfl

@[simp] theorem enums_onPackage (o : Overrides) (file : FileDescriptor) :
    (o.onPackage file).enums = file.enums := by
  rcases o with ⟨_ | package, name?⟩ <;> rfl

@[simp] theorem messages_applied (o : Overrides) (file : FileDescriptor)
    (m : MessageDescriptor) : (o.applied file m).messages = [o.onMessage m] := rfl

@[simp] theorem enums_applied (o : Overrides) (file : FileDescriptor) (m : MessageDescriptor) :
    (o.applied file m).enums = file.enums := o.enums_onPackage file

@[simp] theorem package_applied (o : Overrides) (file : FileDescriptor)
    (m : MessageDescriptor) : (o.applied file m).package = o.packageOn file :=
  o.package_onPackage file

@[simp] theorem name_applied (o : Overrides) (file : FileDescriptor) (m : MessageDescriptor) :
    (o.applied file m).name = Name.canonicalFile (o.packageOn file) (o.nameOn m) := by
  simp [applied, FileDescriptor.name]

theorem apply_of_messages (o : Overrides) {file : FileDescriptor} {m : MessageDescriptor}
    (hm : file.messages = [m]) (hname : o.nameOn m ≠ "") :
    o.apply file = .ok (o.applied file m) := by
  have hempty : ¬(o.onMessage m).name.isEmpty := by simpa using hname
  simp only [apply, hm, if_neg hempty, applied]

/-- The overrides go on exactly the files with one message that has a name then. -/
theorem apply_eq_ok_iff (o : Overrides) (file rewritten : FileDescriptor) :
    o.apply file = .ok rewritten ↔
      ∃ m, file.messages = [m] ∧ o.nameOn m ≠ "" ∧ rewritten = o.applied file m := by
  constructor
  · intro h
    rw [apply] at h
    split at h
    · rename_i m hm
      split at h
      · simp at h
      · rename_i hempty
        refine ⟨m, hm, by simpa using hempty, ?_⟩
        exact (Except.ok.inj h).symm
    · simp at h
  · rintro ⟨m, hm, hname, rfl⟩
    exact o.apply_of_messages hm hname

end Overrides

open Descriptor in
theorem soleFile_eq_ok_iff (files : List FileDescriptor) (file : FileDescriptor) :
    soleFile files = .ok file ↔ files = [file] := by
  rcases files with _ | ⟨first, _ | ⟨second, rest⟩⟩ <;> simp [soleFile]

end Protogen
