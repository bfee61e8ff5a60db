import Keystroke.CommandLine.Watch
import Keystroke.Files.Directory
import Keystroke.Proofs.Faults
import Mathlib.Data.List.Forall2

/-! A watched file is converted at the start and at each event that concerns it. What a conversion writes and whether
it fails depends on the files at that moment only, and the last one decides how the run ends. -/
namespace Keystroke.CommandLine

open Keystroke.Command Keystroke.Files Keystroke.Listing

section Conversions

/-- What a conversion finds: the text of its input, unless it cannot be read, and why its output cannot be
written. -/
structure Moment where
  text : Except FileError String
  blocked : Option FileError

def Moment.ofFiles (access : Access) (stdin input output : String) : Moment where
  text := readInput access stdin input
  blocked := (Target.ofPath output).error? access

/-- Why a conversion fails at a moment. -/
def Moment.error? (conv : Converter) (m : Moment) : Option RunError :=
  match m.text with
  | .error error => some (.file error)
  | .ok text =>
    match (conv.convert text).listing with
    | .error fault => some (.broken fault)
    | .ok _ => m.blocked.map .file

/-- The listing that is written at a moment. -/
def Lists (conv : Converter) (output : String) (m : Moment) (written : Output) : Prop :=
  ∃ text listing, m.text = .ok text ∧ (conv.convert text).listing = .ok listing ∧
    written = ⟨Target.ofPath output, .text listing⟩

variable {conv : Converter} {access : Access} {stdin input output : String}

theorem convertFile_log : (convertFile access stdin conv input output).log =
    ((Moment.ofFiles access stdin input output).text.toOption.map fun text => (conv.convert text).log).getD [] := by
  unfold convertFile Moment.ofFiles
  cases readInput access stdin input <;> rfl

theorem Moment.error_eq_none_iff {m : Moment} : m.error? conv = none ↔
    ∃ text listing, m.text = .ok text ∧ (conv.convert text).listing = .ok listing ∧ m.blocked = none := by
  unfold Moment.error?
  cases m.text with
  | error error => simp
  | ok text => cases hlisting : (conv.convert text).listing <;> simp [hlisting]

theorem convertFile_succeeds (hm : (Moment.ofFiles access stdin input output).error? conv = none) :
    ∃ written, (convertFile access stdin conv input output).result = .ok written ∧
      Lists conv output (Moment.ofFiles access stdin input output) written := by
  obtain ⟨text, listing, htext, hlisting, hblocked⟩ := Moment.error_eq_none_iff.mp hm
  refine ⟨⟨Target.ofPath output, .text listing⟩, ?_, text, listing, htext, hlisting, rfl⟩
  simp only [Moment.ofFiles] at htext hblocked
  simp only [convertFile, htext, hlisting, hblocked]

theorem convertFile_fails {error : RunError}
    (hm : (Moment.ofFiles access stdin input output).error? conv = some error) :
    (convertFile access stdin conv input output).result = .error error := by
  unfold Moment.error? Moment.ofFiles at hm
  unfold convertFile
  cases htext : readInput access stdin input with
  | error fault => simpa [htext] using hm
  | ok text =>
    cases hlisting : (conv.convert text).listing with
    | error fault => simpa [htext, hlisting] using hm
    | ok listing =>
      obtain ⟨fault, hblocked, rfl⟩ : ∃ fault, (Target.ofPath output).error? access = some fault ∧
          RunError.file fault = error := by simpa [htext, hlisting] using hm
      simp only [hlisting, hblocked]

/-- A single conversion writes its listing, or fails and writes nothing. -/
theorem convertFile_report :
    List.Forall₂ (Lists conv output) ([Moment.ofFiles access stdin input output].filter fun m => (m.error? conv).isNone)
      (convertFile access stdin conv input output).report.outputs ∧
    (convertFile access stdin conv input output).report.error =
      (Moment.ofFiles access stdin input output).error? conv := by
  cases herror : (Moment.ofFiles access stdin input output).error? conv with
  | none =>
    obtain ⟨written, hresult, hlists⟩ := convertFile_succeeds herror
    rw [Conversion.report, hresult, List.filter_cons_of_pos (by rw [herror]; rfl)]
    exact ⟨.cons hlists .nil, rfl⟩
  | some error =>
    rw [Conversion.report, convertFile_fails herror, List.filter_cons_of_neg (by simp [herror])]
    exact ⟨.nil, rfl⟩

theorem exists_moment_of_mem {ms : List Moment} {outputs : List Output} {written : Output}
    (h : List.Forall₂ (Lists conv output) ms outputs) (hwritten : written ∈ outputs) :
    ∃ m ∈ ms, Lists conv output m written := by
  induction h with
  | nil => cases hwritten
  | cons hlists _ ih =>
    rcases List.mem_cons.mp hwritten with rfl | hwritten
    · exact ⟨_, List.mem_cons_self, hlists⟩
    · obtain ⟨m, hm, hlists⟩ := ih hwritten
      exact ⟨m, List.mem_cons_of_mem _ hm, hlists⟩

end Conversions

namespace Watched

variable (w : Watched)

def moment (access : Access) (stdin : String) : Moment :=
  .ofFiles access stdin w.input w.output

/-- The moment of an event that asks for a conversion: the input was written or created, under whatever spelling of
its path. Standard input has nothing more to read by then. -/
def momentOf? : Event → Option Moment
  | .change name operations access =>
    if clean name = clean w.input ∧ (.write ∈ operations ∨ .create ∈ operations) then some (w.moment access "")
    else none
  | .failure _ => none

/-- The moments at which the input is converted. -/
def moments (access : Access) (stdin : String) (events : List Event) : List Moment :=
  w.moment access stdin :: events.filterMap w.momentOf?

/-- The log lines of a conversion, at the end the error if it fails. -/
def logAt (m : Moment) : List String :=
  (m.text.toOption.map fun text => (w.conv.convert text).log).getD [] ++
    (m.error? w.conv).toList.map fun error => w.input ++ ": " ++ error.message

/-- The log lines of an event. -/
def logOf : Event → List String
  | .failure message => ["watch: " ++ message]
  | .change name operations access =>
    ((w.momentOf? (.change name operations access)).map fun m =>
      (if w.conv.verbose then [w.input ++ ": " ++ operationsText operations] else []) ++ w.logAt m).getD []

/-- A report of conversions at some moments, with the log lines `log`. -/
structure Reports (ms : List Moment) (log : List String) (report : Report) : Prop where
  /-- Each conversion that does not fail writes its listing, and the others write nothing. -/
  outputs : List.Forall₂ (Lists w.conv w.output) (ms.filter fun m => (m.error? w.conv).isNone) report.outputs
  /-- The last conversion decides. -/
  error : report.error = ms.getLast?.bind (Moment.error? w.conv)
  log : report.log = log

variable {w}

theorem concerns_iff (name : String) (operations : List Operation) (access : Access) :
    (Event.change name operations access).concerns w.input = true ↔
      clean name = clean w.input ∧ (.write ∈ operations ∨ .create ∈ operations) := by
  simp [Event.concerns]

theorem reports_nil : w.Reports [] [] {} :=
  ⟨.nil, rfl, rfl⟩

theorem Reports.add {ms : List Moment} {log : List String} {report : Report}
    (h : w.Reports ms log report) (note : List String) (access : Access) (stdin : String) :
    w.Reports (ms ++ [w.moment access stdin]) (log ++ (note ++ w.logAt (w.moment access stdin)))
      (w.add report note (convertFile access stdin w.conv w.input w.output)) := by
  have hconvert : (convertFile access stdin w.conv w.input w.output).log =
      ((w.moment access stdin).text.toOption.map fun text => (w.conv.convert text).log).getD [] := convertFile_log
  cases herror : (w.moment access stdin).error? w.conv with
  | none =>
    obtain ⟨written, hresult, hlists⟩ := convertFile_succeeds herror
    refine ⟨?_, ?_, ?_⟩
    · rw [List.filter_append]
      apply List.rel_append h.outputs
      rw [hresult, List.filter_cons_of_pos (by rw [herror]; rfl)]
      exact .cons hlists .nil
    · simp [Watched.add, hresult, herror]
    · simp [Watched.add, failureLog, logAt, hresult, herror, hconvert, h.log]
  | some error =>
    have hresult := convertFile_fails herror
    refine ⟨?_, ?_, ?_⟩
    · rw [List.filter_append]
      apply List.rel_append h.outputs
      rw [hresult, List.filter_cons_of_neg (by simp [herror])]
      exact .nil
    · simp [Watched.add, hresult, herror]
    · simp [Watched.add, failureLog, logAt, hresult, herror, hconvert, h.log]

/-- What one event preserves. -/
theorem Reports.react {ms : List Moment} {log : List String}
    {report : Report} (h : w.Reports ms log report) (event : Event) :
    w.Reports (ms ++ (w.momentOf? event).toList) (log ++ w.logOf event) (w.react report event) := by
  cases event with
  | failure message =>
    rw [momentOf?, Option.toList_none, List.append_nil]
    exact ⟨h.outputs, h.error, by rw [Watched.react, h.log]; rfl⟩
  | change name operations access =>
    by_cases hconcerns : clean name = clean w.input ∧ (.write ∈ operations ∨ .create ∈ operations)
    · have hmoment : w.momentOf? (.change name operations access) = some (w.moment access "") := if_pos hconcerns
      rw [Watched.react, if_pos ((concerns_iff name operations access).mpr hconcerns), logOf, hmoment,
        Option.toList_some, Option.map_some, Option.getD_some]
      exact h.add _ access ""
    · have hmoment : w.momentOf? (.change name operations access) = none := if_neg hconcerns
      rw [Watched.react, if_neg (mt (concerns_iff name operations access).mp hconcerns), logOf, hmoment,
        Option.toList_none, Option.map_none, Option.getD_none, List.append_nil, List.append_nil]
      exact h

theorem Reports.foldl {ms : List Moment} {log : List String}
    {report : Report} (h : w.Reports ms log report) (events : List Event) :
    w.Reports (ms ++ events.filterMap w.momentOf?) (log ++ events.flatMap w.logOf) (events.foldl w.react report) := by
  induction events generalizing ms log report with
  | nil => simpa using h
  | cons event rest ih =>
    -- The report after the first event is the one that the others start from.
    have hrest := ih (h.react event)
    have hms : ms ++ (event :: rest).filterMap w.momentOf? =
        ms ++ (w.momentOf? event).toList ++ rest.filterMap w.momentOf? := by
      rw [List.append_assoc, List.filterMap_cons]
      cases w.momentOf? event <;> rfl
    rw [hms, List.foldl_cons, List.flatMap_cons, ← List.append_assoc]
    exact hrest

theorem reports_run {access : Access}
    (hdirectory : access.watchError? (directory w.input) = none) (stdin : String) (events : List Event) :
    w.Reports (w.moments access stdin events) (w.logAt (w.moment access stdin) ++ events.flatMap w.logOf)
      (w.run access stdin events) := by
  have hstart : w.Reports [w.moment access stdin] (w.logAt (w.moment access stdin)) _ :=
    reports_nil.add [] access stdin
  rw [Watched.run, hdirectory]
  exact hstart.foldl events

theorem isSome_momentOf (event : Event) : (w.momentOf? event).isSome = event.concerns w.input := by
  cases event with
  | failure message => rfl
  | change name operations access =>
    rw [Bool.eq_iff_iff, concerns_iff, momentOf?]
    split_ifs with hconcerns <;> simp [hconcerns]

theorem length_moments (access : Access) (stdin : String) (events : List Event) :
    (w.moments access stdin events).length = 1 + events.countP (Event.concerns w.input) := by
  rw [moments, List.length_cons, List.length_filterMap_eq_countP, Nat.add_comm]
  simp only [isSome_momentOf]

theorem mem_log_of_fails {access : Access} {stdin : String} {events : List Event} {m : Moment} {error : RunError}
    (hm : m ∈ w.moments access stdin events) (herror : m.error? w.conv = some error) :
    w.input ++ ": " ++ error.message ∈ w.logAt (w.moment access stdin) ++ events.flatMap w.logOf := by
  have hline : w.input ++ ": " ++ error.message ∈ w.logAt m := by
    rw [logAt, herror]
    simp
  rcases List.mem_cons.mp hm with rfl | hm
  · exact List.mem_append_left _ hline
  · obtain ⟨event, hevent, hmoment⟩ := List.mem_filterMap.mp hm
    apply List.mem_append_right
    apply List.mem_flatMap_of_mem hevent
    cases event with
    | failure message => cases hmoment
    | change name operations access =>
      rw [logOf, hmoment, Option.map_some, Option.getD_some]
      exact List.mem_append_right _ hline

/-- The input is converted once at the start and once for each event that writes or creates it, from its text at that
moment. A conversion that fails is logged and writes nothing, and the last one decides how the run ends. -/
theorem watch_converts_each_moment (access : Access) (stdin : String)
    (events : List Event) (hdirectory : access.watchError? (directory w.input) = none) :
    (w.moments access stdin events).length = 1 + events.countP (Event.concerns w.input) ∧
    List.Forall₂ (Lists w.conv w.output) ((w.moments access stdin events).filter fun m => (m.error? w.conv).isNone)
      (w.run access stdin events).outputs ∧
    (∀ m ∈ w.moments access stdin events, ∀ error, m.error? w.conv = some error →
      w.input ++ ": " ++ error.message ∈ (w.run access stdin events).log) ∧
    (w.run access stdin events).log = w.logAt (w.moment access stdin) ++ events.flatMap w.logOf ∧
    (w.run access stdin events).error = (w.moments access stdin events).getLast?.bind (Moment.error? w.conv) := by
  have h := reports_run hdirectory stdin events
  refine ⟨length_moments access stdin events, h.outputs, ?_, h.log, h.error⟩
  intro m hm error herror
  rw [h.log]
  exact mem_log_of_fails hm herror

end Watched

/-- A program that is listed on standard output. -/
def watchedProgram : Watched :=
  ⟨{}, "prog.txt", "-"⟩

/-- The directory of the program, which has some text or is missing. -/
def programFiles (text : Option String) : Access :=
  Directory.access ⟨(text.map ("prog.txt", ·)).toList⟩

/-- The program is removed and written again; in between a conversion fails. -/
def replacement : List Event :=
  [.change "./prog.txt" [.remove] (programFiles none), .failure "queue overflow",
    .change "notes.txt" [.write] (programFiles none), .change "prog.txt" [.chmod, .write] (programFiles none),
    .change "./prog.txt" [.create] (programFiles (some "\n"))]

theorem watch_converts_each_moment_replaced :
    (programFiles (some "")).watchError? (directory watchedProgram.input) = none ∧
    "prog.txt: open prog.txt: no such file or directory" ∈
      (watchedProgram.run (programFiles (some "")) "" replacement).log ∧
    (watchedProgram.run (programFiles (some "")) "" replacement).outputs.length = 2 ∧
    (watchedProgram.run (programFiles (some "")) "" replacement).error = none := by
  have hdirectory : (programFiles (some "")).watchError? (directory watchedProgram.input) = none := by decide
  have hmoments : watchedProgram.moments (programFiles (some "")) "" replacement =
      [⟨.ok "", none⟩, ⟨.error ⟨.opening, "prog.txt", .missing⟩, none⟩, ⟨.ok "\n", none⟩] := rfl
  obtain ⟨_, houtputs, hlog, _, herror⟩ := Watched.watch_converts_each_moment (w := watchedProgram)
    (programFiles (some "")) "" replacement hdirectory
  rw [hmoments] at houtputs hlog herror
  refine ⟨hdirectory, ?_, houtputs.length_eq.symm, herror⟩
  exact hlog ⟨.error ⟨.opening, "prog.txt", .missing⟩, none⟩ (by simp) _ rfl

end Keystroke.CommandLine
