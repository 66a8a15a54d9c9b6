import Protogen.Proofs.Overrides.Applied
import Protogen.Proofs.Outcome
import Protogen.Proofs.Request.References

/-!
# Overrides one after the other

Overrides that go on a file after others replace what they ask for and leave the rest as the
others left it, so two of them in a row are one: the later ones, completed by the earlier ones.
The file name is computed from what is in force and does not remember how it came about.
-/

namespace Protogen

namespace Overrides

open Descriptor

/-- The overrides, with those of `earlier` where they ask for nothing. -/
def completedBy (o earlier : Overrides) : Overrides :=
  ⟨o.package?.or earlier.package?, o.messageName?.or earlier.messageName?⟩

theorem completedBy_self (o : Overrides) : o.completedBy o = o := by
  simp [completedBy]

theorem packageOn_applied (later o : Overrides) (file : FileDescriptor) (m : MessageDescriptor) :
    later.packageOn (o.applied file m) = (later.completedBy o).packageOn file := by
  rw [packageOn, package_applied, packageOn, packageOn, completedBy]
  cases later.package? <;> rfl

theorem nameOn_onMessage (later o : Overrides) (m : MessageDescriptor) :
    later.nameOn (o.onMessage m) = (later.completedBy o).nameOn m := by
  rw [nameOn, name_onMessage, nameOn, nameOn, completedBy]
  cases later.messageName? <;> rfl

theorem onMessage_onMessage (later o : Overrides) (m : MessageDescriptor) :
    later.onMessage (o.onMessage m) = (later.completedBy o).onMessage m := by
  obtain ⟨package?, name?⟩ := o
  obtain ⟨package'?, name'?⟩ := later
  cases name? <;> cases name'? <;> rfl

/-- Apart from its name and its message, a file forgets in which order it was changed. -/
theorem onPackage_applied (later o : Overrides) (file : FileDescriptor) (m : MessageDescriptor) :
    later.onPackage (o.applied file m) =
      { (later.completedBy o).onPackage file with
        messages := (o.applied file m).messages
        name? := (o.applied file m).name? } := by
  obtain ⟨package?, name?⟩ := o
  obtain ⟨package'?, name'?⟩ := later
  cases package? <;> cases package'? <;> rfl

theorem applied_applied (later o : Overrides) (file : FileDescriptor) (m : MessageDescriptor) :
    later.applied (o.applied file m) (o.onMessage m) = (later.completedBy o).applied file m := by
  have hname : Name.canonicalFile (later.onPackage (o.applied file m)).package
      (later.onMessage (o.onMessage m)).name =
      Name.canonicalFile ((later.completedBy o).onPackage file).package
        ((later.completedBy o).onMessage m).name := by
    simp [packageOn_applied, nameOn_onMessage]
  rw [applied.eq_1 later, hname, onPackage_applied, onMessage_onMessage]
  rfl

/-- Two overrides in a row have the outcome of one. -/
theorem apply_applied (later o : Overrides) {file : FileDescriptor} {m : MessageDescriptor}
    (hm : file.messages = [m]) :
    later.apply (o.applied file m) = (later.completedBy o).apply file := by
  have hname := nameOn_onMessage later o m
  by_cases hempty : later.nameOn (o.onMessage m) = ""
  · have hlater : (later.onMessage (o.onMessage m)).name.isEmpty := by simpa using hempty
    have hboth : ((later.completedBy o).onMessage m).name.isEmpty := by
      simpa using hname.symm.trans hempty
    simp only [apply, messages_applied, hm, if_pos hlater, if_pos hboth]
  · rw [later.apply_of_messages (o.messages_applied file m) hempty, applied_applied,
      (later.completedBy o).apply_of_messages hm (hname ▸ hempty)]

/-- What the overrides do to a file with the message `m`, which becomes `m'`: what they ask for
is in force and the file is named after it. They do no more than that. -/
structure Rewrites (o : Overrides) (file rewritten : FileDescriptor) (m m' : MessageDescriptor) :
    Prop where
  package_eq : rewritten.package = o.packageOn file
  message_eq : m'.name = o.nameOn m
  name_eq : rewritten.name = Name.canonicalFile (o.packageOn file) (o.nameOn m)
  package_kept : o.package? = none →
    rewritten.package? = file.package? ∧ rewritten.options? = file.options?
  message_kept : o.messageName? = none → m' = m
  inMessage : m' = { m with body := { m.body with name? := m'.body.name? } }
  inFile : rewritten = { file with
    name? := rewritten.name?
    package? := rewritten.package?
    options? := rewritten.options?
    messages := rewritten.messages }

theorem rewrites_applied (o : Overrides) (file : FileDescriptor) (m : MessageDescriptor) :
    o.Rewrites file (o.applied file m) m (o.onMessage m) where
  package_eq := o.package_applied file m
  message_eq := o.name_onMessage m
  name_eq := o.name_applied file m
  package_kept hnone := by simp [applied, onPackage, hnone]
  message_kept hnone := by rw [onMessage, hnone]
  inMessage := by
    obtain ⟨body, nested⟩ := m
    obtain ⟨package?, name?⟩ := o
    cases name? <;> rfl
  inFile := by
    obtain ⟨package?, name?⟩ := o
    cases package? <;> rfl

/-- Overrides compose. To go on with others after them has the outcome of the others, completed
by them, on the file as it was; in particular to apply them twice is to apply them once. And
overrides change nothing but the name of the file and what they ask for. -/
theorem overrides_compose (o : Overrides) (file : FileDescriptor) :
    (o.apply file >>= o.apply) = o.apply file ∧
      ∀ rewritten, o.apply file = .ok rewritten →
        (∃ m m', file.messages = [m] ∧ rewritten.messages = [m'] ∧
          o.Rewrites file rewritten m m') ∧
        ∀ later : Overrides, later.apply rewritten = (later.completedBy o).apply file := by
  have hcompose (rewritten : FileDescriptor) (h : o.apply file = .ok rewritten) :
      (∃ m m', file.messages = [m] ∧ rewritten.messages = [m'] ∧
        o.Rewrites file rewritten m m') ∧
      ∀ later : Overrides, later.apply rewritten = (later.completedBy o).apply file := by
    obtain ⟨m, hm, -, rfl⟩ := (o.apply_eq_ok_iff file rewritten).mp h
    exact ⟨⟨m, _, hm, rfl, o.rewrites_applied file m⟩, fun later => later.apply_applied o hm⟩
  refine ⟨?_, hcompose⟩
  cases h : o.apply file with
  | error e => rfl
  | ok rewritten =>
      have htwice := (hcompose rewritten h).2 o
      rw [completedBy_self, h] at htwice
      exact htwice

/-- A track that gets another package first and another name then has both, and it has lost the
options that speak of its old package. -/
theorem track_overridden_twice :
    let file := { Request.trackFile "Point" with
      options? := some { FileOptions.blank with javaPackage? := some "org.tracks" } }
    let o : Overrides := ⟨some "acme.music", none⟩
    let later : Overrides := ⟨none, some "Disc"⟩
    ∃ rewritten, o.apply file = .ok rewritten ∧
      later.apply rewritten = (⟨some "acme.music", some "Disc"⟩ : Overrides).apply file ∧
      ∃ m m', rewritten.messages = [m'] ∧ o.Rewrites file rewritten m m' ∧
        ∃ twice, later.apply rewritten = .ok twice ∧ twice.name = "acme/music/Disc.proto" ∧
          twice.options?.bind FileOptions.javaPackage? = none := by
  intro file o later
  let m := file.messages.headD ⟨MessageBody.blank, []⟩
  have happly : o.apply file = .ok (o.applied file m) := o.apply_of_messages rfl (by decide)
  have htwice : later.apply (o.applied file m) = .ok (later.applied (o.applied file m)
      (o.onMessage m)) := later.apply_of_messages rfl (by decide)
  obtain ⟨-, hcompose⟩ := overrides_compose o file
  obtain ⟨⟨m, m', -, hm', hrewrites⟩, hlater⟩ := hcompose _ happly
  exact ⟨_, happly, hlater later, m, m', hm', hrewrites, _, htwice, by decide +kernel, rfl⟩

end Overrides

end Protogen
