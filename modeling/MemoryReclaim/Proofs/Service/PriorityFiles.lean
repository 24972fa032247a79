import MemoryReclaim.Host.Scripted
import MemoryReclaim.Proofs.Service.Applied
import MemoryReclaim.Proofs.Text.Padding
import MemoryReclaim.Service.Calls

/-!
# Priority files

The kernel keeps the priority of a process in a file that holds one 32-bit number and nothing
else, white space apart.  Every other content is refused, and the fault tells which file it was
and what stood in it.
-/

namespace MemoryReclaim

open MemoryReclaim.Text

namespace ProcFile

variable {content : String} {value : Priority}

/-- The content is a whole number of 32 bits, in decimal, with white space around it. -/
def Holds (content : String) (value : Priority) : Prop :=
  ∃ front numeral back, content.toList = front ++ numeral ++ back ∧ IsPadding front ∧
    IsPadding back ∧ IsInteger value numeral ∧ -2147483648 ≤ value ∧ value ≤ 2147483647

theorem priority?_eq_some_iff : priority? content = some value ↔ Holds content value := by
  rw [priority?, readInt32?_eq_some_iff]
  constructor
  · rintro ⟨hinteger, hrange⟩
    obtain ⟨front, back, hfront, hback, htext⟩ := (trim_eq_word_iff hinteger.isWord).1 rfl
    exact ⟨front, trim content.toList, back, htext, hfront, hback, hinteger, hrange⟩
  · rintro ⟨front, numeral, back, htext, hfront, hback, hinteger, hrange⟩
    rw [(trim_eq_word_iff hinteger.isWord).2 ⟨front, back, hfront, hback, htext⟩]
    exact ⟨hinteger, hrange⟩

theorem priority?_eq_none_iff : priority? content = none ↔ ∀ value, ¬ Holds content value := by
  simp only [Option.eq_none_iff_forall_ne_some, ne_eq, priority?_eq_some_iff]

theorem holds_writeInt {front back : List Char} (hfront : IsPadding front) (hback : IsPadding back)
    (hleast : -2147483648 ≤ value) (hgreatest : value ≤ 2147483647) :
    Holds (String.ofList (front ++ writeInt value ++ back)) value :=
  ⟨front, writeInt value, back, String.toList_ofList, hfront, hback, isInteger_writeInt value,
    hleast, hgreatest⟩

end ProcFile

variable {σ : Type}

/-- The file with the priority of a process. -/
def Setup.priorityFile (setup : Setup σ) (pid : Pid) : Path :=
  ProcFile.path setup.procRoot pid "oom_score_adj"

namespace Service

variable {setup : Setup σ} {service : Service σ} {pid : Pid} {value : Priority}

def priorityReading (setup : Setup σ) (pid : Pid) (service : Service σ) : Except Fault String :=
  (setup.host.read (setup.priorityFile pid) service.host).1

/-- What the host reads decides: a fault of its own is passed on, and a content that is no
number becomes one. -/
theorem readPriority_fst :
    (service.readPriority setup pid).1 = (service.priorityReading setup pid).bind fun content =>
      (ProcFile.priority? content).elim
        (.error (.malformed (setup.priorityFile pid) content)) .ok := by
  rw [readPriority, readFile, priorityReading, Setup.priorityFile]
  cases setup.host.read (ProcFile.path setup.procRoot pid "oom_score_adj") service.host with
  | mk reading host =>
      cases reading with
      | error fault => rfl
      | ok content =>
          dsimp only [Except.bind]
          cases ProcFile.priority? content <;> rfl

theorem readPriority_eq_ok_iff :
    (service.readPriority setup pid).1 = .ok value ↔
      ∃ content, service.priorityReading setup pid = .ok content ∧
        ProcFile.Holds content value := by
  rw [readPriority_fst]
  cases service.priorityReading setup pid with
  | error fault => simp [Except.bind]
  | ok content =>
      simp only [Except.bind, Except.ok.injEq, exists_eq_left', ← ProcFile.priority?_eq_some_iff]
      cases ProcFile.priority? content <;> simp

theorem readPriority_eq_error_iff {fault : Fault} :
    (service.readPriority setup pid).1 = .error fault ↔
      service.priorityReading setup pid = .error fault ∨
        ∃ content, service.priorityReading setup pid = .ok content ∧
          (∀ value, ¬ ProcFile.Holds content value) ∧
            fault = .malformed (setup.priorityFile pid) content := by
  rw [readPriority_fst]
  cases service.priorityReading setup pid with
  | error fault => simp [Except.bind]
  | ok content =>
      simp only [Except.bind, Except.ok.injEq, exists_eq_left', reduceCtorEq, false_or,
        ← ProcFile.priority?_eq_none_iff]
      cases ProcFile.priority? content <;> simp [eq_comm]

theorem kernelPriority_camera :
    service.kernelPriority setup setup.config.cameraService pid =
      service.readPriority setup pid := by
  rw [kernelPriority, reserve_eq, if_pos rfl]

/-- A content is read as a number exactly if it holds that number, so every number that is
written and padded is read back.  The camera service is answered by the number that the file
of a process holds, by the host's fault where the file cannot be read, and for every other
content by a fault that names the file and quotes the content. -/
theorem priority_file_holds_number (setup : Setup σ) (pid : Pid) (service : Service σ) :
    let reading := (setup.host.read (setup.priorityFile pid) service.host).1
    let answer := (service.kernelPriority setup setup.config.cameraService pid).1
    (∀ content value, ProcFile.priority? content = some value ↔ ProcFile.Holds content value) ∧
    (∀ value front back, -2147483648 ≤ value → value ≤ 2147483647 → IsPadding front →
      IsPadding back →
        ProcFile.priority? (String.ofList (front ++ writeInt value ++ back)) = some value) ∧
    (∀ value, answer = .ok value ↔
      ∃ content, reading = .ok content ∧ ProcFile.Holds content value) ∧
    (∀ fault, answer = .error fault ↔ reading = .error fault ∨
      ∃ content, reading = .ok content ∧ (∀ value, ¬ ProcFile.Holds content value) ∧
        fault = .malformed (setup.priorityFile pid) content) := by
  intro reading answer
  have hanswer : answer = (service.readPriority setup pid).1 :=
    congrArg Prod.fst kernelPriority_camera
  refine ⟨fun _ _ => ProcFile.priority?_eq_some_iff, ?_, fun value => ?_, fun fault => ?_⟩
  · intro value front back hleast hgreatest hfront hback
    exact ProcFile.priority?_eq_some_iff.2
      (ProcFile.holds_writeInt hfront hback hleast hgreatest)
  · rw [hanswer]
    exact readPriority_eq_ok_iff
  · rw [hanswer]
    exact readPriority_eq_error_iff

/-- The first file holds a number with a sign, with zeros in front of it and between blanks; the
second has a blank inside; and the third does not exist.  The least number is read back too. -/
theorem priority_file_holds_number_padded :
    let files : OrdMap Path String :=
      .ofList [("/proc/7/oom_score_adj", "\u3000-0042\r\n"), ("/proc/8/oom_score_adj", "4 2")]
    let setup : Setup Script := ⟨Script.host, .nameless, .default, "/proc"⟩
    let service := start { Script.start with files }
    let answer := fun pid => (service.kernelPriority setup 1047 pid).1
    ProcFile.Holds "\u3000-0042\r\n" (-42) ∧ answer 7 = .ok (-42) ∧
      (∀ value, ¬ ProcFile.Holds "4 2" value) ∧
      answer 8 = .error (.malformed "/proc/8/oom_score_adj" "4 2") ∧
      answer 9 = .error (.unreadable "/proc/9/oom_score_adj" "not found") ∧
      ProcFile.priority? (String.ofList (['\u0085'] ++ writeInt (-2147483648) ++ ['\t'])) =
        some (-2147483648) := by
  intro files setup service answer
  have hseven : service.priorityReading setup 7 = .ok "\u3000-0042\r\n" := by decide
  have height : service.priorityReading setup 8 = .ok "4 2" := by decide
  have hnine : service.priorityReading setup 9 =
      .error (.unreadable "/proc/9/oom_score_adj" "not found") := by decide
  have hnumber : ProcFile.Holds "\u3000-0042\r\n" (-42) :=
    ⟨['\u3000'], "-0042".toList, ['\r', '\n'], by decide, by decide, by decide,
      .minus ⟨[0, 0, 4, 2], by decide, by decide, by decide, by decide⟩, by decide, by decide⟩
  have hrefused : ∀ value, ¬ ProcFile.Holds "4 2" value :=
    ProcFile.priority?_eq_none_iff.1 (by decide)
  obtain ⟨-, hwritten, hread, -⟩ := priority_file_holds_number setup 7 service
  obtain ⟨-, -, -, hfails⟩ := priority_file_holds_number setup 8 service
  obtain ⟨-, -, -, hmissing⟩ := priority_file_holds_number setup 9 service
  exact ⟨hnumber, (hread (-42)).2 ⟨_, hseven, hnumber⟩, hrefused,
    (hfails _).2 (.inr ⟨_, height, hrefused, by decide⟩), (hmissing _).2 (.inl hnine),
    hwritten _ _ _ (by decide) (by decide) (by decide) (by decide)⟩

end Service

end MemoryReclaim
