import SourceAtlas.CommandLine.Run
import SourceAtlas.Proofs.Diagnostic.Stripping

/-!
# The channels of a reporter

A reporter that shows progress writes no events, and one that shows events counts and displays nothing.
What is written in either mode is told by the notices alone: one text for each that is written, in their
order.  Without colours an event looks the same whatever its priority.
-/

namespace SourceAtlas

/-- What a reporter is told: directly, through its listener, or by the run. -/
inductive Notice
  | log (e : Event)
  | heard (s : Signal)
  | processed
  | start
  | finish
  | status (t : Text) (endsLine : Bool)
  deriving DecidableEq, Repr

namespace Notice

/-- The event of a notice. -/
def event? : Notice → Option Event
  | .log e | .heard (.event e) => some e
  | _ => none

/-- A processed file. -/
def isProcessed : Notice → Bool
  | .processed | .heard .processed => true
  | _ => false

/-- The text of a status. -/
def status? : Notice → Option Text
  | .status t endsLine => some (if endsLine then t ++ ['\n'] else t)
  | _ => none

/-- A start or a finish, which open and close a progress display. -/
def movesDisplay : Notice → Bool
  | .start | .finish => true
  | _ => false

/-- A display is open after notices: the last of them to open or to close it was a start. -/
def leaveOpen (before : List Notice) : Bool := (before.filter movesDisplay).getLast? = some .start

/-- What a notice makes a reporter write that shows progress: the text of a status, and the label at a
start while no display is open. -/
def progressText? (before : List Notice) (n : Notice) : Option Text :=
  match n with
  | .start => if leaveOpen before then none else some (Reporter.progressLabel ++ ['\n'])
  | n => n.status?

/-- What notices make a reporter write that shows progress, each after those before it. -/
def progressTexts (before : List Notice) : List Notice → List Text
  | [] => []
  | n :: ns => (progressText? before n).toList ++ progressTexts (before ++ [n]) ns

/-- What a notice makes a reporter write that shows events: the text of a status, and the line of an event
up to the threshold. -/
def verboseText? (v : Verbosity) (n : Notice) : Option Text :=
  match n.event? with
  | some e => if e.priority ≤ v.threshold then some (Reporter.eventLine e ++ ['\n']) else none
  | none => n.status?

end Notice

namespace Reporter

open CommandLine (shown)

/-- Takes in a notice. -/
def take (r : Reporter) : Notice → Reporter
  | .log e => r.log e
  | .heard s => r.receive s
  | .processed => r.countProcessed
  | .start => r.start
  | .finish => r.finish
  | .status t true => r.writeLine t
  | .status t false => r.write t

/-- Takes in notices, one after another. -/
def takeAll (r : Reporter) (ns : List Notice) : Reporter := ns.foldl take r

variable {r : Reporter} {v : Verbosity} {colored : Bool}

theorem write_eq (r : Reporter) (t : Text) :
    r.write t = { r with written := r.written ++ shown r.colored t } := rfl

/-! ## Notices that change nothing -/

theorem takeAll_cons (r : Reporter) (n : Notice) (ns : List Notice) :
    r.takeAll (n :: ns) = (r.take n).takeAll ns := rfl

theorem mode_log (r : Reporter) (e : Event) : (r.log e).mode = r.mode := by
  unfold log
  split
  · rfl
  · split <;> rfl

theorem mode_countProcessed (r : Reporter) : r.countProcessed.mode = r.mode := by
  unfold countProcessed
  split <;> rfl

theorem mode_take (r : Reporter) (n : Notice) : (r.take n).mode = r.mode := by
  cases n with
  | log e => exact mode_log r e
  | heard s =>
      cases s with
      | event e => exact mode_log r e
      | processed => exact mode_countProcessed r
  | processed => exact mode_countProcessed r
  | start =>
      rw [take, start]
      split
      · split <;> rfl
      · rfl
  | finish =>
      rw [take, finish]
      split <;> rfl
  | status t endsLine => cases endsLine <;> rfl

theorem take_of_progress {n : Notice} (hmode : r.mode = .progress) (h : n.event?.isSome = true) :
    r.take n = r := by
  cases n with
  | log e => simp [take, log, hmode]
  | heard s =>
      cases s with
      | event e => simp [take, receive, log, hmode]
      | processed => cases h
  | processed => cases h
  | start => cases h
  | finish => cases h
  | status t endsLine => cases h

theorem take_of_verbose {n : Notice} (hmode : r.mode = .verbose)
    (h : n.event? = none ∧ n.status? = none) : r.take n = r := by
  cases n with
  | log e => cases h.1
  | heard s =>
      cases s with
      | event e => cases h.1
      | processed => simp [take, receive, countProcessed, hmode]
  | processed => simp [take, countProcessed, hmode]
  | start => simp [take, start, hmode]
  | finish => simp [take, finish, hmode]
  | status t endsLine => cases h.2

/-- Notices that change no reporter of the mode can be left out. -/
theorem takeAll_filter {p : Notice → Bool} {ns : List Notice}
    (h : ∀ r' : Reporter, r'.mode = r.mode → ∀ n, p n = false → r'.take n = r') :
    r.takeAll (ns.filter p) = r.takeAll ns := by
  induction ns generalizing r with
  | nil => rfl
  | cons n ns ih =>
      have hrest := @ih (r.take n) fun r' hmode => h r' (hmode.trans (mode_take r n))
      cases hn : p n with
      | true => rw [List.filter_cons_of_pos hn, takeAll_cons, takeAll_cons, hrest]
      | false =>
          have hsame := h r rfl n hn
          rw [List.filter_cons_of_neg (by simp [hn]), takeAll_cons, hsame]
          rwa [hsame] at hrest

/-! ## Showing progress -/

/-- A reporter that shows progress, after notices and what they made it write. -/
def progressAfter (v : Verbosity) (colored : Bool) (ns : List Notice) (written : Text) : Reporter :=
  { mode := .progress, verbosity := v, colored, displayOpen := Notice.leaveOpen ns,
    processed := ns.countP Notice.isProcessed, written }

theorem leaveOpen_concat (ns : List Notice) (n : Notice) :
    Notice.leaveOpen (ns ++ [n]) =
      if n.movesDisplay then decide (n = .start) else Notice.leaveOpen ns := by
  rw [Notice.leaveOpen, List.filter_append]
  cases h : n.movesDisplay with
  | true => simp [h]
  | false => simp [h, Notice.leaveOpen]

/-- One notice writes its text and is counted or not; an event does neither. -/
theorem take_progressAfter (ns : List Notice) (n : Notice) (written : Text) :
    (progressAfter v colored ns written).take n =
      progressAfter v colored (ns ++ [n])
        (written ++ (Notice.progressText? ns n).toList.flatMap (shown colored)) := by
  simp only [progressAfter, leaveOpen_concat, List.countP_append, List.countP_singleton]
  cases n with
  | log e => simp [take, log, Notice.progressText?, Notice.status?, Notice.isProcessed,
      Notice.movesDisplay]
  | heard s =>
      cases s with
      | event e => simp [take, receive, log, Notice.progressText?, Notice.status?,
          Notice.isProcessed, Notice.movesDisplay]
      | processed => simp [take, receive, countProcessed, Notice.progressText?, Notice.status?,
          Notice.isProcessed, Notice.movesDisplay]
  | processed => simp [take, countProcessed, Notice.progressText?, Notice.status?,
      Notice.isProcessed, Notice.movesDisplay]
  | start =>
      cases hopen : Notice.leaveOpen ns <;>
        simp [take, start, hopen, writeLine, write_eq, Notice.progressText?, Notice.isProcessed,
          Notice.movesDisplay]
  | finish => simp [take, finish, Notice.progressText?, Notice.status?, Notice.isProcessed,
      Notice.movesDisplay]
  | status t endsLine =>
      cases endsLine <;>
        simp [take, writeLine, write_eq, Notice.progressText?, Notice.status?, Notice.isProcessed,
          Notice.movesDisplay]

theorem takeAll_progressAfter (before ns : List Notice) (written : Text) :
    (progressAfter v colored before written).takeAll ns =
      progressAfter v colored (before ++ ns)
        (written ++ (Notice.progressTexts before ns).flatMap (shown colored)) := by
  induction ns generalizing before written with
  | nil => simp [takeAll, Notice.progressTexts]
  | cons n ns ih =>
      rw [takeAll_cons, take_progressAfter, ih, Notice.progressTexts,
        List.flatMap_append, List.append_assoc, List.append_assoc, List.singleton_append]

/-! ## Showing events -/

/-- A reporter that shows events, after what it was made to write. -/
def verboseAfter (v : Verbosity) (colored : Bool) (written : Text) : Reporter :=
  { mode := .verbose, verbosity := v, colored, written }

/-- One notice writes its text; none is counted, and none opens a display. -/
theorem take_verboseAfter (n : Notice) (written : Text) :
    (verboseAfter v colored written).take n =
      verboseAfter v colored
        (written ++ (Notice.verboseText? v n).toList.flatMap (shown colored)) := by
  have hlog : ∀ e : Event, (verboseAfter v colored written).log e =
      verboseAfter v colored
        (written ++ (Notice.verboseText? v (.log e)).toList.flatMap (shown colored)) := by
    intro e
    by_cases hshown : e.priority ≤ v.threshold <;>
      simp [verboseAfter, log, Event.isShown, hshown, writeLine, write_eq, Notice.verboseText?,
        Notice.event?]
  have hsilent : ∀ n : Notice, n.event? = none ∧ n.status? = none →
      (verboseAfter v colored written).take n =
        verboseAfter v colored
          (written ++ (Notice.verboseText? v n).toList.flatMap (shown colored)) := by
    intro n hn
    rw [take_of_verbose rfl hn, Notice.verboseText?, hn.1]
    simp [hn.2]
  cases n with
  | log e => exact hlog e
  | heard s =>
      cases s with
      | event e => exact hlog e
      | processed => exact hsilent _ ⟨rfl, rfl⟩
  | processed => exact hsilent _ ⟨rfl, rfl⟩
  | start => exact hsilent _ ⟨rfl, rfl⟩
  | finish => exact hsilent _ ⟨rfl, rfl⟩
  | status t endsLine =>
      cases endsLine <;>
        simp [verboseAfter, take, writeLine, write_eq, Notice.verboseText?, Notice.event?,
          Notice.status?]

theorem takeAll_verboseAfter (ns : List Notice) (written : Text) :
    (verboseAfter v colored written).takeAll ns =
      verboseAfter v colored
        (written ++ (ns.filterMap (Notice.verboseText? v)).flatMap (shown colored)) := by
  induction ns generalizing written with
  | nil => simp [takeAll]
  | cons n ns ih =>
      rw [takeAll_cons, take_verboseAfter, ih, List.append_assoc]
      cases h : Notice.verboseText? v n <;> simp [h]

/-! ## The lines of events -/

/-- Without colours, the line of an event is its message behind the indent. -/
theorem shown_eventLine (e : Event) :
    shown false (eventLine e ++ ['\n']) = indent ++ Ansi.strip e.message ++ ['\n'] := by
  have hindent : Ansi.escape ∉ indent := by decide
  have hend : ∀ t : Text, Ansi.strip (t ++ ['\n']) = Ansi.strip t ++ ['\n'] := by
    intro t
    rw [Ansi.strip_append_newline, Ansi.strip_nil]
  rw [shown, if_neg (by simp), eventLine, List.append_assoc, Ansi.strip_append_of_not_mem hindent,
    List.append_assoc]
  congr 1
  split
  · rw [Ansi.strip_paint_append, Ansi.strip_newline]
  · exact hend e.message

/-- However it is told what, a reporter keeps to one channel.  One that shows progress counts every
processed file, and writes the texts of the statuses and the label of its display at each start while none
is open; events change nothing.  One that shows events counts nothing, and writes the texts of the statuses
and the line of each event up to the threshold; what is not a status or an event changes nothing.  Without
colours, an event of any priority is written as its indented message without escape sequences. -/
theorem reporter_keeps_to_its_channel (v : Verbosity) (colored : Bool) (ns : List Notice) :
    let progress : Reporter := { mode := .progress, verbosity := v, colored }
    let verbose : Reporter := { mode := .verbose, verbosity := v, colored }
    ((progress.takeAll ns).processed = ns.countP Notice.isProcessed ∧
      (progress.takeAll ns).written = (Notice.progressTexts [] ns).flatMap (shown colored) ∧
      progress.takeAll (ns.filter (·.event?.isNone)) = progress.takeAll ns) ∧
    ((verbose.takeAll ns).processed = 0 ∧
      (verbose.takeAll ns).written =
        (ns.filterMap (Notice.verboseText? v)).flatMap (shown colored) ∧
      verbose.takeAll (ns.filter fun n => n.event?.isSome || n.status?.isSome) =
        verbose.takeAll ns) ∧
    ∀ (message : Text) (p q : Int),
      shown false (eventLine ⟨message, p⟩ ++ ['\n']) =
        shown false (eventLine ⟨message, q⟩ ++ ['\n']) ∧
      shown false (eventLine ⟨message, p⟩ ++ ['\n']) = indent ++ Ansi.strip message ++ ['\n'] := by
  intro progress verbose
  have hprogress : progress.takeAll ns = progressAfter v colored ns
      ((Notice.progressTexts [] ns).flatMap (shown colored)) := takeAll_progressAfter [] ns []
  have hverbose : verbose.takeAll ns = verboseAfter v colored
      ((ns.filterMap (Notice.verboseText? v)).flatMap (shown colored)) := takeAll_verboseAfter ns []
  refine ⟨⟨by rw [hprogress, progressAfter], by rw [hprogress, progressAfter], ?_⟩,
    ⟨by rw [hverbose, verboseAfter], by rw [hverbose, verboseAfter], ?_⟩, fun message p q => ?_⟩
  · exact takeAll_filter fun r hmode n hevent =>
      take_of_progress hmode (by simpa using hevent)
  · exact takeAll_filter fun r hmode n hother => take_of_verbose hmode (by simpa using hother)
  · rw [shown_eventLine, shown_eventLine]
    exact ⟨rfl, rfl⟩

end Reporter

end SourceAtlas
