import Sysboost.Linux.WorkloadCalls
import Sysboost.Platform.Process

/-!
# The start time of a process

Three readers take the start time from a line of `/proc/<pid>/stat`.  The
command name in that line is chosen by the process and may hold anything, but
what follows it holds no parenthesis; so all three find the same field behind
the last one.  The two readers of the workload adapter refuse a line that is
longer than any interface file.
-/

namespace Sysboost.Linux.Workload

open Sysboost.Core Sysboost.Platform ByteCodec Interaction

/-! ## The record -/

/-- The PID, the command name in parentheses, and the further fields. -/
def statLine (pid : UInt32) (comm rest : String) : String :=
  toString pid ++ " (" ++ comm ++ ") " ++ rest

/-- The 22nd field, a positive number; the further fields begin with the third. -/
def startField (rest : String) : Option UInt64 :=
  ((splitWhitespace rest)[19]?.bind (parseNumber (2 ^ 64))).bind fun value =>
    if value = 0 then none else some (UInt64.ofNat value)

section Line

variable {pid : UInt32} {comm rest : String}

/-- No command name hides the fields that follow it. -/
theorem afterLast_statLine (absent : ')' ∉ rest.toList) :
    afterLast ')' (statLine pid comm rest) = some (" " ++ rest) := by
  have whole : (statLine pid comm rest).toList =
      (toString pid ++ " (" ++ comm).toList ++ ')' :: (" " ++ rest).toList := by
    simp [statLine]
  have absent' : ')' ∉ (" " ++ rest).toList := by simpa using absent
  exact afterLast_eq_some absent' whole

theorem startTimeOf_statLine (absent : ')' ∉ rest.toList) :
    startTimeOf (statLine pid comm rest) = startField rest := by
  rw [startTimeOf, afterLast_statLine absent, startField]
  simp only [Option.bind_eq_bind, Option.bind_some, splitWhitespace_space]
  rfl

theorem parseStartTime_statLine (absent : ')' ∉ rest.toList) (message : String) :
    parseStartTime message (toUtf8 (statLine pid comm rest)) =
      (startField rest).elim (.error (targetError (message ++ " start time is unavailable")))
        .ok := by
  have text : utf8Text (message ++ " stat is not valid UTF-8") (toUtf8 (statLine pid comm rest)) =
      .ok (statLine pid comm rest) := by
    rw [utf8Text, fromUtf8_toUtf8]
  rw [parseStartTime, text, startField]
  simp only [bind, Except.bind, afterLast_statLine absent, splitWhitespace_space]
  cases (splitWhitespace rest)[19]?.bind (parseNumber (2 ^ 64)) with
  | none => rfl
  | some value =>
      by_cases zero : value = 0
      · simp [zero]
        rfl
      · simp [zero]
        rfl

theorem startField_ne_zero (absent : ')' ∉ rest.toList) {started : UInt64}
    (found : startField rest = some started) : started ≠ 0 := by
  have line : startTimeOf (statLine 0 "" rest) = some started :=
    (startTimeOf_statLine absent).trans found
  exact startTimeOf_ne_zero line

end Line

/-! ## The readers -/

/-- What `read_proc_identity` makes of a start time. -/
def identified (process : ProcessId) : Option UInt64 → Except SysboostError ProcessId
  | none => .error (targetError "process start time is unavailable")
  | some started =>
      if started = process.startTimeTicks then .ok process
      else .error (targetError "process PID was recycled or identity changed")

/-- What `current_process` makes of a start time. -/
def current (pid : UInt32) : Option UInt64 → Except SysboostError ProcessId
  | none => .error (targetError "current process start time is unavailable")
  | some started => ProcessId.new pid started

/-- The three readers take the start time from the line of a process. -/
structure ReadAlike (pid : UInt32) (line : String) (started : Option UInt64) : Prop where
  platform : startTimeOf line = started
  identity : ∀ answer (sysfs : WorkloadSysfs) process, process.pid = pid →
    ShowsFile answer (sysfs.procFile process "stat") (toUtf8 line) →
      (sysfs.readProcIdentity process).result answer = identified process started
  current : ∀ answer (sysfs : WorkloadSysfs),
    ShowsFile answer (sysfs.procRoot ++ [toString pid, "stat"]) (toUtf8 line) →
      (sysfs.currentProcess pid).result answer = Workload.current pid started

/-- The readers of the workload adapter refuse the line for its size. -/
structure Oversized (pid : UInt32) (line : String) : Prop where
  identity : ∀ answer (sysfs : WorkloadSysfs) process, process.pid = pid →
    ShowsFile answer (sysfs.procFile process "stat") (toUtf8 line) →
      (sysfs.readProcIdentity process).result answer =
        .error (targetError "workload control file is oversized")
  current : ∀ answer (sysfs : WorkloadSysfs),
    ShowsFile answer (sysfs.procRoot ++ [toString pid, "stat"]) (toUtf8 line) →
      (sysfs.currentProcess pid).result answer =
        .error (targetError "workload control file is oversized")

section Readers

variable {answer : (request : Call) → Answer request} {sysfs : WorkloadSysfs} {pid : UInt32}
  {comm rest : String}

theorem result_readProcIdentity (absent : ')' ∉ rest.toList)
    (fits : (toUtf8 (statLine pid comm rest)).length ≤ maxReadBytes) {process : ProcessId}
    (shows' : ShowsFile answer (sysfs.procFile process "stat") (toUtf8 (statLine pid comm rest))) :
    (sysfs.readProcIdentity process).result answer = identified process (startField rest) := by
  have read := shows'.result_readClosedFile "process identity cannot be inspected"
  rw [if_neg (not_lt.mpr fits)] at read
  have parsed : (Early.check (parseStartTime "process" (toUtf8 (statLine pid comm rest))) :
      Io UInt64).result answer = _ := parseStartTime_statLine absent "process"
  rw [WorkloadSysfs.readProcIdentity, Early.result_bind_of_ok _ read, Early.result_bind, parsed]
  cases found : startField rest with
  | none => rfl
  | some started =>
      have positive := startField_ne_zero absent found
      have made : (Early.check (ProcessId.new process.pid started) : Io ProcessId).result answer =
          .ok ⟨process.pid, started, process.positive.1, positive⟩ :=
        dif_pos ⟨process.positive.1, positive⟩
      refine (Early.result_bind_of_ok answer made).trans ?_
      rw [Early.result_refuseIf_bind, identified]
      by_cases same : started = process.startTimeTicks
      · subst same
        simp
      · have other : ProcessId.mk process.pid started ⟨process.positive.1, positive⟩ ≠ process :=
          fun made => same (congrArg ProcessId.startTimeTicks made)
        simp [same, other]

theorem result_currentProcess (absent : ')' ∉ rest.toList)
    (fits : (toUtf8 (statLine pid comm rest)).length ≤ maxReadBytes)
    (shows' : ShowsFile answer (sysfs.procRoot ++ [toString pid, "stat"])
      (toUtf8 (statLine pid comm rest))) :
    (sysfs.currentProcess pid).result answer = current pid (startField rest) := by
  have read := shows'.result_readClosedFile "current process identity cannot be inspected"
  rw [if_neg (not_lt.mpr fits)] at read
  have parsed : (Early.check (parseStartTime "current process"
      (toUtf8 (statLine pid comm rest))) : Io UInt64).result answer = _ :=
    parseStartTime_statLine absent "current process"
  rw [WorkloadSysfs.currentProcess, Early.result_bind_of_ok _ read, Early.result_bind, parsed]
  cases startField rest with
  | none => rfl
  | some started => rfl

/-- A file that is refused for its size. -/
theorem result_of_oversized {path : Kernel.Path} {content : Bytes} {α : Type}
    {next : Bytes → Io α} (shows' : ShowsFile answer path content)
    (large : maxReadBytes < content.length) (message : String) :
    (readClosedFile path message >>= next).result answer =
      .error (targetError "workload control file is oversized") := by
  rw [Early.result_bind, shows'.result_readClosedFile, if_pos large]
  rfl

theorem oversized_of_lt {line : String} (large : maxReadBytes < (toUtf8 line).length) :
    Oversized pid line where
  identity _ _ _ _ shows' := result_of_oversized shows' large _
  current _ _ shows' := result_of_oversized shows' large _

end Readers

/-- **The start time is read behind any command name.**  All three readers take
the 22nd field of a line that is no longer than an interface file, and reject it
when it is absent, no 64-bit number, or zero; of a longer line `parse_start_time`
takes the same field, and the other two reject the line for its size. -/
theorem start_time_read {pid : UInt32} {comm rest : String} (absent : ')' ∉ rest.toList) :
    ((toUtf8 (statLine pid comm rest)).length ≤ maxReadBytes →
        ReadAlike pid (statLine pid comm rest) (startField rest)) ∧
      (maxReadBytes < (toUtf8 (statLine pid comm rest)).length →
        startTimeOf (statLine pid comm rest) = startField rest ∧
          Oversized pid (statLine pid comm rest)) := by
  constructor
  · intro fits
    constructor
    · exact startTimeOf_statLine absent
    · exact fun _ _ _ _ shows' => result_readProcIdentity absent fits shows'
    · exact fun _ _ shows' => result_currentProcess absent fits shows'
  · exact fun large => ⟨startTimeOf_statLine absent, oversized_of_lt large⟩

/-- A command name that imitates the end of another one. -/
def imitating : String :=
  "7) S (\n) Z 1"

/-- A command name that fills an interface file. -/
def filling : String :=
  String.ofList (List.replicate maxReadBytes 'x')

/-- The further fields of a process that was started at 4242. -/
def furtherFields : String :=
  "S 1 2 3 4 5 6 7 8 9 10 11 12 13 14 15 16 17 18 4242 0"

theorem furtherFields_read : ')' ∉ furtherFields.toList ∧ startField furtherFields = some 4242 ∧
    (toUtf8 (statLine 7 imitating furtherFields)).length ≤ maxReadBytes := by
  decide +kernel

theorem start_time_read_imitating :
    ReadAlike 7 (statLine 7 imitating furtherFields) (some 4242) := by
  obtain ⟨absent, found, fits⟩ := furtherFields_read
  have alike := (start_time_read absent).1 fits
  rwa [found] at alike

/-- A kernel that shows one regular file under every path. -/
def oneFile (content : Bytes) : (request : Call) → Answer request
  | .group _ | .groupAt _ => .ok none
  | .insertGroup _ _ | .removeGroup _ => .ok ()
  | .kernel (.symlinkMetadata _) | .kernel (.fileMetadata _) => .ok ⟨.file, 1, 2, true⟩
  | .kernel (.openRead _) => .ok ()
  | .kernel (.readToEnd _ _) => .ok content
  | .kernel (.readDirectory _) => .error .other
  | .kernel (.canonicalize _) => .error .other
  | .kernel (.openWrite _) => .error .other
  | .kernel (.writeAll _ _) => .error .other
  | .kernel (.createDirectory _) => .error .other
  | .kernel (.removeDirectory _) => .error .other
  | .kernel (.getPriority _) => .error .other
  | .kernel (.setPriority _ _) => .error .other

theorem oneFile_shows (path : Kernel.Path) (content : Bytes) :
    ShowsFile (oneFile content) path content :=
  ⟨⟨_, rfl, rfl⟩, rfl, rfl⟩

theorem filling_large :
    maxReadBytes < (toUtf8 (statLine 7 filling furtherFields)).length := by
  have single : (toUtf8 filling).length = maxReadBytes := by
    rw [toUtf8_of_ascii]
    · simp [filling]
    · intro symbol member
      rw [filling, String.toList_ofList] at member
      rw [List.eq_of_mem_replicate member]
      decide
  have after : 0 < (toUtf8 ") ").length := by decide
  simp only [statLine, toUtf8_append, List.length_append, single]
  omega

/-- Behind a name that fills the file `parse_start_time` finds the field, and the
readers of the adapter refuse the line. -/
theorem start_time_unread_filling :
    startTimeOf (statLine 7 filling furtherFields) = some 4242 ∧
      Oversized 7 (statLine 7 filling furtherFields) ∧
      ¬ReadAlike 7 (statLine 7 filling furtherFields) (startField furtherFields) := by
  obtain ⟨absent, found, -⟩ := furtherFields_read
  have oversized : Oversized 7 (statLine 7 filling furtherFields) := oversized_of_lt filling_large
  refine ⟨(startTimeOf_statLine absent).trans found, oversized, fun alike => ?_⟩
  have shows' := oneFile_shows (["proc"] ++ [toString (7 : UInt32), "stat"])
    (toUtf8 (statLine 7 filling furtherFields))
  have read := alike.current _ ⟨["proc"]⟩ shows'
  rw [oversized.current _ ⟨["proc"]⟩ shows', found, current, ProcessId.new, dif_pos (by decide)]
    at read
  cases read

end Sysboost.Linux.Workload
