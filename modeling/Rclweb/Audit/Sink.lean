import Rclweb.Audit.Verified
import Rclweb.Library.Acts
import Mathlib.Logic.Function.Basic

/-!
# The file sink

`AuditSink` appends lines to a live file.  A live file that has grown to `maxBytes` is renamed to
rotation 1 before the next line, the older rotations move up, and the one beyond `retain` is
removed.

The file system acts one operation at a time.  An operation of a rotation may fail, an append may
fail behind any number of bytes, and the process may die between any two operations or behind any
number of bytes of a line; what is on disk then stays there for the next start.
-/

namespace Rclweb
namespace Audit

open BigEndian (utf8)

/-! ## The disk -/

inductive FileName where
  | live
  | rotation (n : ℕ)
  | corrupt (secs : ℕ)
  | exported
  deriving DecidableEq

/-- The contents of the files that are there. -/
abbrev Disk := FileName → Option (List UInt8)

inductive FsOp where
  | remove (name : FileName)
  | rename (source target : FileName)
  | create (name : FileName)
  deriving DecidableEq

namespace FsOp

/-- **One operation.**  `create` opens a file for appending and leaves what is in it. -/
def apply (disk : Disk) : FsOp → Disk
  | remove name => Function.update disk name none
  | rename source target => Function.update (Function.update disk target (disk source)) source none
  | create name => Function.update disk name (some ((disk name).getD []))

/-- The operation takes the live file away. -/
def movesLive : FsOp → Bool
  | rename .live _ => true
  | _ => false

end FsOp

/-- The disk behind some operations. -/
def perform (disk : Disk) (ops : List FsOp) : Disk := ops.foldl FsOp.apply disk

/-- Write to the end of the live file. -/
def appendLive (disk : Disk) (bytes : List UInt8) : Disk :=
  Function.update disk .live ((disk .live).map (· ++ bytes))

/-! ## The sink -/

inductive OnCorrupt where
  | fail
  | rotate
  deriving DecidableEq

inductive AuditIntegrity where
  | ok
  | error
  deriving DecidableEq

/-- The open file, if it is open, its counted bytes and what the next line continues. -/
structure FileState where
  file : Bool
  bytes : ℕ
  chain : Chain

structure AuditSink where
  maxBytes : ℕ
  retain : ℕ
  onCorrupt : OnCorrupt
  state : FileState
  events : ℕ
  writeErrors : ℕ
  integrity : AuditIntegrity

def AuditSink.failed (sink : AuditSink) : AuditSink :=
  { sink with writeErrors := sink.writeErrors + 1, integrity := .error }

/-- Rotations up to `n` move up, the oldest first.  Nothing below a rotation has moved when it is
looked for. -/
def shiftOps (disk : Disk) : ℕ → List FsOp
  | 0 => []
  | n + 1 =>
    if (disk (.rotation (n + 1))).isSome then
      .rename (.rotation (n + 1)) (.rotation (n + 2)) :: shiftOps disk n
    else shiftOps disk n

/-- What a rotation does before it takes the live file. -/
def shelveOps (disk : Disk) (retain : ℕ) : List FsOp :=
  (if (disk (.rotation retain)).isSome then [FsOp.remove (.rotation retain)] else []) ++
    shiftOps disk (retain - 1)

/-- **The operations of a rotation.** -/
def rotateOps (disk : Disk) (retain : ℕ) : List FsOp :=
  shelveOps disk retain ++ [FsOp.rename .live (.rotation 1), FsOp.create .live]

def lengthOf (disk : Disk) (name : FileName) : ℕ := ((disk name).getD []).length

def openLive (disk : Disk) (chain : Chain) : FileState := ⟨true, lengthOf disk .live, chain⟩

/-- A rotation is due. -/
def AuditSink.due (sink : AuditSink) : Bool := sink.maxBytes ≤ sink.state.bytes

/-- The operations in front of the next line. -/
def AuditSink.opsDue (sink : AuditSink) (disk : Disk) : List FsOp :=
  if sink.due then rotateOps disk sink.retain else []

def rewindChain (c : Crates) (chain : Chain) (failedLine : String) : Chain :=
  match (c.fromStr failedLine).bind Value.asObject with
  | none => chain
  | some obj =>
    ⟨chain.seq - 1, ((obj.lookup "prev_sha256").bind Value.asStr).getD chain.prevHex⟩

/-! ## The system -/

/-- How an operation goes: to its end, with a rotation or an append that fails behind some
operations or bytes; or the process dies behind some operations and bytes. -/
inductive Course where
  | ends (rotation append : Option ℕ)
  | dies (ops written : ℕ)
  deriving DecidableEq

/-- The disk and the process.  `reported` are the records whose append succeeded since the live file
was last moved, `appended` says that one did since the start, and `written` are the records whose
lines are on disk whole. -/
structure System where
  disk : Disk
  process : Option AuditSink
  reported : List Record
  appended : Bool
  written : List Record

def System.fresh : System := ⟨fun _ => none, none, [], false, []⟩

inductive Act where
  | start (maxBytes retain : ℕ) (onCorrupt : OnCorrupt) (now ts : ℕ) (course : Course)
  | emit (event : Value) (ts : ℕ) (course : Course)
  | die

def nextRecord (chain : Chain) (event : Value) (ts : ℕ) : Record :=
  ⟨chain.seq + 1, chain.prevHex, nextMembers chain event ts⟩

namespace System

/-- File operations, and what they leave of `reported`. -/
def perform (s : System) (ops : List FsOp) : System :=
  { s with
    disk := Audit.perform s.disk ops
    reported := if ops.any FsOp.movesLive then [] else s.reported }

def halt (s : System) : System := { s with process := none, appended := false }

/-- `rotate_live`; the operation `fault` fails, if it is one of the rotation's. -/
def rotateLive (s : System) (sink : AuditSink) (fault : Option ℕ) : System × AuditSink :=
  match fault.filter (· < (rotateOps s.disk sink.retain).length) with
  | some k =>
    (s.perform ((rotateOps s.disk sink.retain).take k),
      { sink with state := { sink.state with file := false } }.failed)
  | none =>
    (s.perform (rotateOps s.disk sink.retain),
      { sink with
        state := openLive (s.perform (rotateOps s.disk sink.retain)).disk sink.state.chain })

/-- The record of an event is on disk and its append has succeeded. -/
def append (s : System) (sink : AuditSink) (line : String) (record : Record) (chain : Chain) :
    System :=
  { disk := appendLive s.disk (utf8 line ++ [Lines.lf])
    process := some
      { sink with
        state := ⟨true, sink.state.bytes + (utf8 line).length + 1, chain⟩
        events := sink.events + 1 }
    reported := s.reported ++ [record]
    appended := true
    written := s.written ++ [record] }

/-- An append has failed behind some bytes. -/
def appendFails (c : Crates) (s : System) (sink : AuditSink) (line : String) (record : Record)
    (chain : Chain) (bytes : ℕ) : System :=
  { s with
    disk := appendLive s.disk ((utf8 line ++ [Lines.lf]).take bytes)
    process := some
      { sink.failed with
        state := { sink.state with chain := rewindChain c chain line }
        events := sink.events + 1 }
    written := if (utf8 line).length < bytes then s.written ++ [record] else s.written }

/-- `append_line`, and the chain behind it. -/
def appendLine (c : Crates) (s : System) (sink : AuditSink) (event : Value) (ts : ℕ)
    (fault : Option ℕ) : System :=
  let (line, chain) := nextLine c sink.state.chain event ts
  let record := nextRecord sink.state.chain event ts
  if sink.state.file then
    match fault with
    | none => s.append sink line record chain
    | some bytes => s.appendFails c sink line record chain bytes
  else s.appendFails c sink line record chain 0

/-- **An event is emitted.** -/
def emit (c : Crates) (s : System) (sink : AuditSink) (event : Value) (ts : ℕ) (course : Course) :
    System :=
  match course with
  | .ends rotation fault =>
    if sink.due then
      let (s, sink) := s.rotateLive sink rotation
      s.appendLine c sink event ts fault
    else s.appendLine c sink event ts fault
  | .dies ops written =>
    let rotation := sink.opsDue s.disk
    let line := utf8 (nextLine c sink.state.chain event ts).1
    let s := (s.perform (rotation.take ops)).halt
    if ops < rotation.length then s
    else
      { s with
        disk := appendLive s.disk ((line ++ [Lines.lf]).take written)
        written :=
          if line.length < written then s.written ++ [nextRecord sink.state.chain event ts]
          else s.written }

/-- The event of a sink that has moved a corrupt file aside. -/
def rotateEvent : Value :=
  .object [("decision", .string "rotate"), ("event", .string "audit_sink"),
    ("reason", .string "integrity_fail")]

/-- What the start finds: a chain to continue, or a file to move aside. -/
def found (c : Crates) (disk : Disk) : Except (VerifyError FileName) Chain :=
  match disk .live with
  | none => .ok .genesis
  | some bytes =>
    if bytes = [] then .ok .genesis
    else (verifyFile c .live bytes).map fun v => ⟨v.lastSeq, v.lastSha256⟩

/-- The sink opens the live file. -/
def opened (s : System) (maxBytes retain : ℕ) (onCorrupt : OnCorrupt) (chain : Chain) : AuditSink :=
  { maxBytes, retain, onCorrupt
    state := openLive s.disk chain
    events := 0
    writeErrors := 0
    integrity := .ok }

/-- The start with a live file that verifies, or without one. -/
def continues (s : System) (maxBytes retain : ℕ) (onCorrupt : OnCorrupt) (chain : Chain)
    (course : Course) : System :=
  match course with
  | .ends _ _ =>
    let s := s.perform [.create .live]
    { s with process := some (s.opened maxBytes retain onCorrupt chain), appended := false }
  | .dies ops _ => (s.perform ([FsOp.create .live].take ops)).halt

/-- A corrupt file is moved out of the way, and a new one opened. -/
def asideOps (now : ℕ) : List FsOp := [.rename .live (.corrupt now), .create .live]

/-- The start with a live file that is moved aside. -/
def setAside (c : Crates) (s : System) (maxBytes retain now ts : ℕ) (course : Course) : System :=
  let opened := { s.perform (asideOps now) with appended := false }
  let sink := opened.opened maxBytes retain .rotate .genesis
  match course with
  | .ends _ _ => opened.emit c sink rotateEvent ts course
  | .dies ops written =>
    if ops < (asideOps now).length then (s.perform ((asideOps now).take ops)).halt
    else opened.emit c sink rotateEvent ts (.dies (ops - (asideOps now).length) written)

/-- **`AuditSink::file`**, in a process that starts. -/
def start (c : Crates) (s : System) (maxBytes retain : ℕ) (onCorrupt : OnCorrupt) (now ts : ℕ)
    (course : Course) : System :=
  if maxBytes = 0 ∨ ¬(1 ≤ retain ∧ retain ≤ 64) then s
  else
    match found c s.disk with
    | .ok chain => s.continues maxBytes retain onCorrupt chain course
    | .error _ =>
      match onCorrupt with
      | .fail => s
      | .rotate => s.setAside c maxBytes retain now ts course

/-- **One act.**  A process starts when none runs, and emits when one does. -/
def step (c : Crates) (s : System) : Act → System
  | .start maxBytes retain onCorrupt now ts course =>
    match s.process with
    | some _ => s
    | none => s.start c maxBytes retain onCorrupt now ts course
  | .emit event ts course =>
    match s.process with
    | some sink => s.emit c sink event ts course
    | none => s
  | .die => s.halt

end System
end Audit
end Rclweb
