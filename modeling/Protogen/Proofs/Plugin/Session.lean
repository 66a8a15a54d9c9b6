import Mathlib.Logic.Relation
import Protogen.Plugin

/-!
# Sessions with a plugin

While a plugin runs, its input is written into a pipe of limited room, from which the plugin reads
as much as it likes, and it may write output at any time. It may close its input or end before it
has read everything. Then the writer finds nobody to read the rest and breaks off, if it is not
done yet. Which of the two comes first is left open, so a session is a relation and no function.
Once the plugin has ended the writer cannot be held up, and whichever way its work ends, the answer
is the same.
-/

namespace Protogen

namespace Plugin

structure Session where
  /-- The input that is still to be written. -/
  unwritten : List UInt8
  /-- What is written and not read yet. -/
  pipe : List UInt8
  /-- What the plugin has read. -/
  taken : List UInt8
  output : List UInt8
  errors : List UInt8
  /-- Whether the input of the plugin is open. -/
  isOpen : Bool
  status? : Option ExitStatus
  /-- How writing has ended, if it has. -/
  writing? : Option (Except WriteFault Unit)
  deriving Repr

namespace Session

def start (input : List UInt8) : Session := ⟨input, [], [], [], [], true, none, none⟩

/-- What the writer and the plugin do next, given the room in the pipe. -/
inductive Step (room : Nat) : Session → Session → Prop
  | write {s : Session} {chunk rest : List UInt8} :
      s.writing? = none → s.isOpen → s.unwritten = chunk ++ rest →
        s.pipe.length + chunk.length ≤ room →
          Step room s { s with unwritten := rest, pipe := s.pipe ++ chunk }
  | finish {s : Session} :
      s.writing? = none → s.unwritten = [] → Step room s { s with writing? := some (.ok ()) }
  | breakOff {s : Session} :
      s.writing? = none → ¬s.isOpen → s.unwritten ≠ [] →
        Step room s { s with writing? := some (.error .brokenPipe) }
  | read {s : Session} {chunk rest : List UInt8} :
      s.isOpen → s.pipe = chunk ++ rest →
        Step room s { s with pipe := rest, taken := s.taken ++ chunk }
  | print {s : Session} (chunk : List UInt8) :
      s.status? = none → Step room s { s with output := s.output ++ chunk }
  | complain {s : Session} (chunk : List UInt8) :
      s.status? = none → Step room s { s with errors := s.errors ++ chunk }
  | close {s : Session} : s.status? = none → Step room s { s with isOpen := false }
  | exit {s : Session} (status : ExitStatus) :
      s.status? = none → Step room s { s with isOpen := false, status? := some status }

abbrev Reaches (room : Nat) : Session → Session → Prop := Relation.ReflTransGen (Step room)

/-- Nothing is left to read, now or later. -/
def HasReadAll (s : Session) : Prop := s.pipe = [] ∧ s.unwritten = []

/-- The plugin is ended, and has done all that the execution says. -/
structure EndsAs (input : List UInt8) (e : Execution) (s : Session) : Prop where
  taken_eq : s.taken = input.take e.taken
  output_eq : s.output = e.output
  errors_eq : s.errors = e.errors
  status_eq : s.status? = some e.status

/-- The answer of a session in which both the plugin and the writer have ended. -/
def answer? (plugin : String) (s : Session) : Option (Except PluginError GeneratorResponse) :=
  match s.status?, s.writing? with
  | some status, some writing =>
    some (Execution.answer plugin writing ⟨s.taken.length, s.output, s.errors, status⟩)
  | _, _ => none

/-- What holds all along a session: no byte of the input is lost or changed, writing ends with the
input or breaks off, and a plugin that has ended reads no more. -/
structure Sound (input : List UInt8) (s : Session) : Prop where
  whole : s.taken ++ s.pipe ++ s.unwritten = input
  finished : s.writing? = some (.ok ()) → s.unwritten = []
  brokenOff : ∀ fault, s.writing? = some (.error fault) → fault = .brokenPipe
  closed : ∀ status, s.status? = some status → s.isOpen = false

theorem sound_start (input : List UInt8) : Sound input (start input) := by
  constructor <;> simp [start]

theorem Step.sound {room : Nat} {input : List UInt8} {s t : Session} (h : Step room s t)
    (hs : s.Sound input) : t.Sound input := by
  cases h with
  | write hwriting hopen hunwritten hroom =>
      exact { hs with
        whole := by simp [← hs.whole, hunwritten]
        finished := fun hdone => nomatch hwriting.symm.trans hdone }
  | finish hwriting hunwritten =>
      exact { hs with
        finished := fun _ => hunwritten
        brokenOff := nofun }
  | breakOff hwriting hclosed hunwritten =>
      exact { hs with
        finished := nofun
        brokenOff := fun fault hfault => (Except.error.inj (Option.some.inj hfault)).symm }
  | read hopen hpipe => exact { hs with whole := by simp [← hs.whole, hpipe] }
  | print chunk hrunning => exact { hs with }
  | complain chunk hrunning => exact { hs with }
  | close hrunning => exact { hs with closed := fun _ _ => rfl }
  | exit status hrunning => exact { hs with closed := fun _ _ => rfl }

theorem Sound.of_reaches {room : Nat} {input : List UInt8} {s t : Session} (hs : s.Sound input)
    (h : Reaches room s t) : t.Sound input := by
  induction h with
  | refl => exact hs
  | tail _ hstep ih => exact hstep.sound ih

theorem sound_of_reaches_start {room : Nat} {input : List UInt8} {s : Session}
    (h : Reaches room (start input) s) : s.Sound input :=
  (sound_start input).of_reaches h

theorem Sound.taken_eq {input : List UInt8} {s : Session} (hs : s.Sound input)
    (h : s.HasReadAll) : s.taken = input := by
  have hwhole := hs.whole
  rw [h.1, h.2] at hwhole
  simpa using hwhole

/-! ### Plugins that do as they are said to -/

/-- However little room there is, one byte after the other goes through the pipe. -/
theorem reaches_taken {room : Nat} (hroom : 0 < room) (chunk rest taken : List UInt8) :
    Reaches room ⟨chunk ++ rest, [], taken, [], [], true, none, none⟩
      ⟨rest, [], taken ++ chunk, [], [], true, none, none⟩ := by
  induction chunk generalizing taken with
  | nil =>
      rw [List.append_nil]
      exact .refl
  | cons b chunk ih =>
      have hrest := ih (taken ++ [b])
      rw [List.append_assoc, List.singleton_append] at hrest
      exact .head (@Step.write room _ [b] (chunk ++ rest) rfl rfl rfl hroom)
        (.head (@Step.read room _ [b] [] rfl rfl) hrest)

/-- Every execution is how some session goes. -/
theorem exists_reaches_endsAs {room : Nat} (hroom : 0 < room) (input : List UInt8)
    (e : Execution) :
    ∃ s, Reaches room (start input) s ∧ s.EndsAs input e ∧
      s.unwritten = input.drop e.taken ∧ s.pipe = [] := by
  have htaken := reaches_taken hroom (input.take e.taken) (input.drop e.taken) []
  rw [List.take_append_drop] at htaken
  refine ⟨_, .tail (.tail (.tail htaken (.print e.output rfl)) (.complain e.errors rfl))
    (.exit e.status rfl), ?_, rfl, rfl⟩
  exact ⟨rfl, rfl, rfl, rfl⟩

/-! ### After the end of the plugin -/

/-- What is known of the plugin is the same. -/
structure SameEnd (s t : Session) : Prop where
  status_eq : t.status? = s.status?
  output_eq : t.output = s.output
  errors_eq : t.errors = s.errors

theorem Step.sameEnd {room : Nat} {s t : Session} (h : Step room s t) {status : ExitStatus}
    (hstatus : s.status? = some status) : s.SameEnd t := by
  cases h with
  | write | finish | breakOff | read => exact ⟨rfl, rfl, rfl⟩
  | print _ hrunning | complain _ hrunning | close hrunning | exit _ hrunning =>
      exact nomatch hrunning.symm.trans hstatus

/-- A plugin that has ended says no more. -/
theorem sameEnd_of_reaches {room : Nat} {s t : Session} (h : Reaches room s t)
    {status : ExitStatus} (hstatus : s.status? = some status) : s.SameEnd t := by
  induction h with
  | refl => exact ⟨rfl, rfl, rfl⟩
  | tail _ hstep ih =>
      have hnext := hstep.sameEnd (ih.status_eq.trans hstatus)
      exact ⟨hnext.status_eq.trans ih.status_eq, hnext.output_eq.trans ih.output_eq,
        hnext.errors_eq.trans ih.errors_eq⟩

/-- Once the plugin has ended, nothing holds the writer up. -/
theorem Sound.exists_reaches_written {input : List UInt8} {s : Session} (hs : s.Sound input)
    (room : Nat) {status : ExitStatus} (hstatus : s.status? = some status) :
    ∃ t writing, Reaches room s t ∧ t.writing? = some writing := by
  cases hwriting : s.writing? with
  | some writing => exact ⟨s, writing, .refl, hwriting⟩
  | none =>
      by_cases hunwritten : s.unwritten = []
      · exact ⟨_, _, .single (.finish hwriting hunwritten), rfl⟩
      · have hclosed : ¬s.isOpen := by simp [hs.closed status hstatus]
        exact ⟨_, _, .single (.breakOff hwriting hclosed hunwritten), rfl⟩

end Session

/-! ### The answer -/

/-- The answer to a plugin that ends so, without regard to what it has read. -/
def verdict (plugin : String) (status : ExitStatus) (output errors : List UInt8) :
    Except PluginError GeneratorResponse :=
  if status = .code 0 then (GeneratorResponse.decode output).mapError (.undecodable plugin)
  else .error (.failed plugin status (Text.trim (Text.ofUtf8Lossy errors)))

/-- As long as writing the input only breaks off, how it ends does not matter. -/
theorem Execution.answer_eq_verdict (plugin : String) (e : Execution)
    {writing : Except WriteFault Unit} (h : ∀ fault, writing = .error fault → fault = .brokenPipe) :
    e.answer plugin writing = verdict plugin e.status e.output e.errors := by
  have htolerated : tolerated writing = .ok () := by
    cases writing with
    | ok => rfl
    | error fault => rw [h fault rfl]; rfl
  rw [answer, verdict, htolerated]
  simp only [ExitStatus.isSuccess, decide_eq_true_eq]
  rfl

theorem generate_eq_verdict (plugin : String) (program : Program) (request : GeneratorRequest) :
    generate plugin (.ok program) request =
      verdict plugin (program (input request)).status (program (input request)).output
        (program (input request)).errors := by
  refine Execution.answer_eq_verdict plugin _ fun fault hfault => ?_
  rw [Execution.writing] at hfault
  split at hfault
  · exact (Except.error.inj hfault).symm
  · exact nomatch hfault

namespace Session

theorem Sound.answer?_eq {input : List UInt8} {s : Session} (hs : s.Sound input) (plugin : String)
    {status : ExitStatus} (hstatus : s.status? = some status)
    {writing : Except WriteFault Unit} (hwriting : s.writing? = some writing) :
    s.answer? plugin = some (verdict plugin status s.output s.errors) := by
  rw [answer?, hstatus, hwriting]
  exact congrArg some (Execution.answer_eq_verdict plugin _ fun fault hfault =>
    hs.brokenOff fault (hfault ▸ hwriting))

/-- However the session goes on, it comes to an answer, and to no other one. -/
structure Settles (room : Nat) (plugin : String) (s : Session)
    (answer : Except PluginError GeneratorResponse) : Prop where
  exists_reaches : ∃ t, Reaches room s t ∧ t.answer? plugin = some answer
  eq_of_reaches : ∀ t other, Reaches room s t → t.answer? plugin = some other → other = answer

theorem Sound.settles {input : List UInt8} {s : Session} (hs : s.Sound input) (room : Nat)
    (plugin : String) {status : ExitStatus} (hstatus : s.status? = some status) :
    s.Settles room plugin (verdict plugin status s.output s.errors) := by
  have hanswer {t : Session} (h : Reaches room s t) {writing : Except WriteFault Unit}
      (hwriting : t.writing? = some writing) :
      t.answer? plugin = some (verdict plugin status s.output s.errors) := by
    have hend := sameEnd_of_reaches h hstatus
    rw [(hs.of_reaches h).answer?_eq plugin (hend.status_eq.trans hstatus) hwriting,
      hend.output_eq, hend.errors_eq]
  constructor
  · obtain ⟨t, writing, h, hwriting⟩ := hs.exists_reaches_written room hstatus
    exact ⟨t, h, hanswer h hwriting⟩
  · intro t other h hother
    cases hwriting : t.writing? with
    | none =>
        simp [answer?, hwriting] at hother
    | some writing => exact Option.some.inj (hother.symm.trans (hanswer h hwriting))

end Session

end Plugin

end Protogen
