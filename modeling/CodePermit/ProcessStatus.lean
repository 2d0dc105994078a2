import CodePermit.Text.Blank
import CodePermit.Text.Encoding
import CodePermit.Text.Line
import CodePermit.Text.Natural
import CodePermit.Text.Substitution
/-!
# Process status

The system describes a process in lines of a name, a colon and a value.  A traced process may
always run generated code; any other process may unless memory protection is enforced for it.  Of
several lines with one name the last one counts.

* `ProcessStatus` — what the lines say;
* `ProcessStatus.ofLines` — read line by line;
* `permitted` — whether the process may run generated code;
* `statusPermits` — the same for the content of a file that may be missing or not be text;
* `processNumber?` — the number of the process.
-/

namespace CodePermit

/-- What the lines of a process status say. -/
structure ProcessStatus where
  /-- The process is traced. -/
  traced : Bool := false
  /-- Memory protection is enforced. -/
  protectionEnforced : Bool := false
deriving DecidableEq

namespace ProcessStatus

/-- The name of the line that tells which process traces this one. -/
def tracerName : List Char :=
  "TracerPid:".toList

/-- The name of the line of protection flags. -/
def flagsName : List Char :=
  "PaX:".toList

/-- The number of the tracer is a 32-bit number and not zero. -/
def namesTracer (value : List Char) : Bool :=
  (Text.readUInt32 (Text.trim value)).any (· ≠ 0)

/-- The flag that enforces memory protection is among the flags. -/
def enforcesProtection (flags : List Char) : Bool :=
  (Text.trim flags).contains 'M'

/-- The status after one more line. -/
def readLine (s : ProcessStatus) (line : List Char) : ProcessStatus :=
  match Text.afterPattern tracerName line with
  | some value => { s with traced := namesTracer value }
  | none =>
    match Text.afterPattern flagsName line with
    | some flags => { s with protectionEnforced := enforcesProtection flags }
    | none => s

/-- The status that lines describe. -/
def ofLines (lines : List (List Char)) : ProcessStatus :=
  lines.foldl readLine {}

/-- The status that a text describes. -/
def ofText (text : List Char) : ProcessStatus :=
  ofLines (Text.lines text)

/-- The process may run generated code. -/
def permits (s : ProcessStatus) : Bool :=
  s.traced || !s.protectionEnforced

end ProcessStatus

/-- The name of the line that numbers the process. -/
def processNumberName : List Char :=
  "Pid:".toList

/-- The number of a process whose status reads so. -/
def processNumber? (text : List Char) : Option UInt32 :=
  (Text.lines text).findSome? fun line =>
    (Text.afterPattern processNumberName line).bind fun value => Text.readUInt32 (Text.trim value)

/-- Whether a process whose status reads so may run generated code. -/
def permitted (text : String) : Bool :=
  (ProcessStatus.ofText text.toList).permits

/-- Whether a process may run generated code by the content of its status file; without a file,
or with one that is no text, it may not. -/
def statusPermits (content : Option (List UInt8)) : Bool :=
  match content.bind Text.decode with
  | some text => (ProcessStatus.ofText text).permits
  | none => false

end CodePermit
