import CodePermit.Helper.Message
import CodePermit.Json.Reader
import CodePermit.Json.Writer
import CodePermit.Text.Blank
import CodePermit.Text.Encoding
import CodePermit.Text.Substitution
/-!
# Exchanges with a helper command

A helper is a command.  Its arguments may hold placeholders, the request is written to its input,
and its answer is read off its exit code and its output.

* `expandArguments` — the arguments with placeholders filled in;
* `AttachRequest.toJson`, `AttachReply.toJson`, `AttachReply.ofJson?` — messages as JSON;
* `CommandResult` — how a command ended;
* `interpret` — the answer that a result stands for;
* `argumentFault?` — why arguments cannot be passed to a command.
-/

namespace CodePermit

/-! ### Arguments -/

/-- The placeholder of the process number. -/
def pidPattern : List Char :=
  ['{', 'p', 'i', 'd', '}']

/-- The placeholder of the application's identifier. -/
def bundlePattern : List Char :=
  ['{', 'b', 'u', 'n', 'd', 'l', 'e', '_', 'i', 'd', '}']

/-- An argument with the process number filled in first and the identifier after it. -/
def expandArgument (r : AttachRequest) (argument : String) : String :=
  let withPid := Text.replaceAll pidPattern (toString r.pid.toNat).toList argument.toList
  String.ofList (Text.replaceAll bundlePattern r.bundleId.toList withPid)

/-- The arguments of a command line behind its program, with placeholders filled in. -/
def expandArguments (r : AttachRequest) (commandLine : List String) : List String :=
  commandLine.tail.map (expandArgument r)

/-! ### Messages as JSON -/

/-- A request as JSON. -/
def AttachRequest.toJson (r : AttachRequest) : Json :=
  .object [("pid", .ofNat r.pid.toNat), ("bundleId", .string r.bundleId)]

namespace AttachReply

/-- An answer as JSON. -/
def toJson : AttachReply → Json
  | attached => .object [("status", .string "attached")]
  | rejected reason => .object [("status", .string "rejected"), ("reason", .string reason)]

/-- The only value among those of a key that must not be repeated. -/
def single : List Json → Option Json
  | [v] => some v
  | _ => none

/-- The answer that a JSON object stands for: its status is given once, and once a reason if the
status is a refusal.  Other members are ignored. -/
def ofJson? (j : Json) : Option AttachReply := do
  let status ← (single (j.members "status")).bind Json.text?
  if status = "attached" then some attached
  else if status = "rejected" then
    let reason ← (single (j.members "reason")).bind Json.text?
    some (rejected reason)
  else none

end AttachReply

/-! ### Results -/

/-- How a command ended: its exit code, unless a signal ended it, and its two outputs. -/
structure CommandResult where
  /-- The exit code; `none` is death by a signal. -/
  exitCode : Option Nat
  /-- What was written to standard output. -/
  stdout : List UInt8
  /-- What was written to standard error. -/
  stderr : List UInt8
deriving DecidableEq

/-- The exit code by which a helper refuses. -/
def refusalCode : Nat := 2

/-- A text of an output: UTF-8 with faults replaced, without blanks around it. -/
def outputText (bytes : List UInt8) : List Char :=
  Text.trim (Text.decodeLossy bytes)

/-- The answer of a helper that ended well: an object is read as an answer, anything else means
that it has attached.  The text of the fault stands for the message of the JSON reader, which names
the place at fault and is not computed. -/
def interpretOutput (text : List Char) : Except HelperFault AttachReply :=
  match text with
  | '{' :: _ =>
    match (Json.read text).bind AttachReply.ofJson? with
    | some reply => .ok reply
    | none => .error (.protocol "the reply is not a JSON object with a known status")
  | _ => .ok .attached

/-- The text of an exit code. -/
def exitText : Option Nat → String
  | some code => toString code
  | none => "-1"

/-- The answer that a result stands for. -/
def interpret (r : CommandResult) : Except HelperFault AttachReply :=
  if r.exitCode = some 0 then interpretOutput (outputText r.stdout)
  else
    let message := String.ofList (outputText r.stderr)
    if r.exitCode = some refusalCode then .error (.rejected message)
    else .error (.unreachable s!"helper exited with code {exitText r.exitCode}: {message}")

/-! ### What can be passed -/

/-- Why an argument cannot be passed to a command. -/
inductive ArgumentFault where
  /-- It holds the character NUL. -/
  | holdsNul
  /-- It is too long. -/
  | tooLong
deriving DecidableEq

/-- What is reported for an argument that cannot be passed. -/
def ArgumentFault.message : ArgumentFault → String
  | holdsNul => "nul byte found in provided data"
  | tooLong => "Argument list too long (os error 7)"

/-- The length in bytes from which on an argument is too long to be passed. -/
def argumentLimit : Nat := 131072

/-- Why arguments cannot be passed to a command, if they cannot. -/
def argumentFault? (arguments : List String) : Option ArgumentFault :=
  if arguments.any fun a => a.toList.contains (Char.ofNat 0) then some .holdsNul
  else if arguments.any fun a => argumentLimit ≤ a.utf8ByteSize then some .tooLong
  else none

end CodePermit
