import RouteServer.Daemon.Health

/-! # The machine that the daemon runs on

Its files and ports, the log output of the process once it is set up, and a journal of all that has been
reported. A record is seen only if log output had been set up before and its filter shows the record.
-/

namespace RouteServer

/-- Something that is announced: a stage of the daemon's life, or a record for the log. -/
inductive Announcement where
  | health (event : HealthEvent)
  | logged (record : Log.Record)

structure JournalEntry where
  announcement : Announcement
  output : Option Log.Output

structure Machine where
  surface : Surface := {}
  output : Option Log.Output := none
  journal : List JournalEntry := []

/-! ## What is seen -/

namespace JournalEntry

/-- The record of an entry; stages of life have one if they are to be logged. -/
def record? (logHealth : Bool) (e : JournalEntry) : Option Log.Record :=
  match e.announcement with
  | .logged r => some r
  | .health event => if logHealth then some event.toRecord else none

def seen? (logHealth : Bool) (e : JournalEntry) : Option (Log.Format × Log.Record) :=
  match e.output, e.record? logHealth with
  | some output, some r => if output.filter.shows r then some (output.format, r) else none
  | _, _ => none

end JournalEntry

namespace Machine

def seen (m : Machine) (logHealth : Bool) : List (Log.Format × Log.Record) :=
  m.journal.filterMap (·.seen? logHealth)

def healthEvents (m : Machine) : List HealthEvent :=
  m.journal.filterMap fun e =>
    match e.announcement with
    | .health event => some event
    | .logged _ => none

/-! ## Reporting -/

def report (m : Machine) (event : HealthEvent) : Machine :=
  { m with journal := m.journal ++ [⟨.health event, m.output⟩] }

def record (m : Machine) (trace : Trace) : Machine :=
  { m with journal := m.journal ++ trace.notes.map fun r => ⟨.logged r, m.output⟩ }

/-- Sets log output up, once for all. -/
def installOutput (m : Machine) (s : Settings) : Except Log.FilterError Machine :=
  match m.output with
  | some _ => .ok m
  | none => (Log.Filter.parse s.logFilter).map fun filter =>
      { m with output := some ⟨filter, s.logFormat⟩ }

end Machine

end RouteServer
