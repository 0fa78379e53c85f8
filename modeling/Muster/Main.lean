import Muster.Agent.CommandRun
import Muster.Agent.Poll
import Muster.Agent.Program
import Muster.Bytes.Uuid
import Muster.ControlPlane.Program
import Muster.Http.Message
import Std.Async.DNS
import Std.Async.Signal
import Std.Async.TCP
import Std.Async.Timer
/-!
The programs on a real machine: its files, its clock, its random numbers and its connections. The first
argument tells whether the agent or the control plane is to run.
-/
namespace Muster

open Muster.Bytes Muster.Files Muster.Http Muster.Text Muster.Time
open Std.Async Std.Async.TCP.Socket

def currentTime : IO ClockTime := do
  let nanos := (← Std.Time.Timestamp.now).toNanosecondsSinceUnixEpoch.val
  let second : Int := 1000000000
  return ((Instant.ofParts? (nanos / second) (nanos % second).toNat).getD .epoch).clockTime

/-- Random numbers that nobody has had before. -/
def freshEntropy : IO Entropy := do
  return ⟨(← IO.getRandomBytes 32).toList, 0⟩

def freshId : IO String := do
  return Uuid.text (Uuid.fresh (← freshEntropy)).1

/-- Why an operation on the files of the machine fails. -/
def fileError : IO.Error → FileError
  | .noFileOrDirectory .. => .notFound
  | .permissionDenied .. => .denied
  | error => .other (toString error)

/-- The result of an operation on the files of the machine. -/
def fileResult {α : Type} (operation : IO α) : IO (Except FileError α) := do
  try
    return .ok (← operation)
  catch error => return .error (fileError error)

/-- Writes a file that only its owner may read and write. -/
def writePrivate (path : String) (octets : List UInt8) : IO Unit := do
  IO.FS.writeBinFile path ByteArray.empty
  IO.setAccessRights path { user := { read := true, write := true } }
  IO.FS.writeBinFile path octets.toByteArray

def machineFiles : FileSystem IO where
  read path := fileResult do return (← IO.FS.readBinFile path).toList
  makeDirectories path := fileResult (IO.FS.createDirAll path)
  writePrivate path octets := fileResult (writePrivate path octets)

def currentHost : IO Agent.Host := do
  match ← machineFiles.readText "/etc/hostname" with
  | .ok name =>
      let name := name.trimAscii.toString
      return ⟨if name.isEmpty then none else some name⟩
  | .error _ => return ⟨none⟩

/-- An address as sockets take it. -/
def socketAddress (ip : Net.IpAddress) (port : UInt16) : Std.Net.SocketAddress :=
  match ip with
  | .v4 octets => .v4 ⟨⟨octets⟩, port⟩
  | .v6 groups => .v6 ⟨⟨groups⟩, port⟩

/-- How many octets are taken from a connection at once. -/
def chunkSize : UInt64 := 65536

/-- Takes octets from a connection until they amount to a message, or cannot do so any more. -/
partial def receiveMessage (client : Client) (isResponse : Bool) (octets : List UInt8) :
    Async (Option Message) := do
  match receive isResponse false octets with
  | .message message => return some message
  | .broken => return none
  | .unfinished =>
      match ← client.recv? chunkSize with
      | some chunk => receiveMessage client isResponse (octets ++ chunk.toList)
      | none =>
          match receive isResponse true octets with
          | .message message => return some message
          | _ => return none

def exchange (endpoint : Endpoint) (request : Request) : Async (Option Agent.Reply) := do
  let addresses ← DNS.getAddrInfo endpoint.host (ofInt endpoint.port.toNat)
  match addresses[0]? with
  | none => return none
  | some address =>
      let client ← Client.mk
      client.connect (match address with
        | .v4 address => .v4 ⟨address, endpoint.port⟩
        | .v6 address => .v6 ⟨address, endpoint.port⟩)
      client.send (request.message endpoint).octets.toByteArray
      let message ← receiveMessage client true []
      return message.bind fun message =>
        message.status?.map fun status => ⟨status, message.body⟩

/-- Sends a request to the control plane of an agent, within its limit of time. -/
def sendTo (config : Agent.Config) (request : Request) : IO (Except Agent.SendError Agent.Reply) := do
  let failure (isTimeout : Bool) : Agent.SendError :=
    ⟨"error sending request for url (" ++ config.server ++ request.target ++ ")", isTimeout⟩
  match Endpoint.ofUrl? config.server with
  | none => return .error ⟨"builder error", false⟩
  | some endpoint =>
      let answer ← (exchange endpoint request).asTask
      let timer ← (sleep (.ofNat (config.timeout * 1000))).asTask
      let first ← IO.waitAny [Task.map some answer, Task.map (fun _ => none) timer]
      match first with
      | some (.ok (some reply)) => return .ok reply
      | some _ => return .error (failure false)
      | none => return .error (failure true)

def rest (length : Duration) : IO Unit :=
  (sleep (.ofNat length.millis)).block

/-- Waits as a policy of backoff has it behind an attempt. -/
def restBehind (policy : Agent.Backoff) (attempt : Nat) : IO Unit := do
  let draw := Float.ofNat (← IO.rand 0 4503599627370495) / 4503599627370496.0
  match policy.delay attempt draw with
  | some length => rest length
  | none => throw (IO.userError "range overflow")

def answerPoll (config : Agent.Config) (signer : Agent.Signer) :
    Agent.PollCall → IO Agent.PollReply
  | .send call => do
      let now ← currentTime
      let (signed, _) := signer.signedHeaders now.seconds (← freshEntropy)
      return .answered (call.outcome (← sendTo config (call.request signed)))
  | .execute command =>
      return .executed (Agent.execute command (.ofSeconds config.executionTimeout))
  | .pause attempt => do
      restBehind Agent.reportPolicy attempt
      return .resumed

/-- Polls for tasks again and again. -/
partial def pollOn (config : Agent.Config) (signer : Agent.Signer) (log : Notice → IO Unit)
    (failures : Nat) : IO Unit := do
  let stage ← Agent.runPoll Agent.reportPolicy (answerPoll config signer)
    (Agent.mostSteps Agent.reportAttempts) .claim
  let result := match stage with
    | .over result => result
    | _ => .ok false
  if let .error error := result then
    log (Agent.notice .warn "poll failed" [("error", error.message)])
  let (pause, failures) := Agent.restAfter failures result
  match pause with
  | .none => return ()
  | .idle => rest (.ofSeconds config.pollInterval)
  | .backoff attempt => restBehind .standard attempt
  pollOn config signer log failures

/-- Waits until the program is told to stop. -/
def stopped : Async Unit := do
  let interrupt ← Signal.Waiter.mk .sigint false
  let termination ← Signal.Waiter.mk .sigterm false
  Selectable.one #[.case interrupt.selector pure, .case termination.selector pure]

/-- Polls until the agent is told to stop. -/
def pollUntilStopped (log : Notice → IO Unit) (config : Agent.Config) (signer : Agent.Signer) :
    IO Unit := do
  discard (IO.asTask (pollOn config signer log 0))
  stopped.block
  log (Agent.notice .info "shutting down")

def tell (line : String) : IO Unit := do
  IO.println line
  (← IO.getStdout).flush

def finish (output : Output) : IO UInt32 := do
  IO.print output.output
  IO.eprint output.errors
  return UInt32.ofNat output.exitCode

def runAgent (arguments : List String) : IO UInt32 := do
  let log (notice : Notice) : IO Unit := tell notice.toJson.write
  let outside : Agent.Outside IO := { files := machineFiles, send := sendTo, log }
  finish (← Agent.runProgram outside (← currentHost) (← freshEntropy) arguments
    (pollUntilStopped log))

/-- What a request is answered with, and what that leaves behind. -/
def answer (service : ControlPlane.Service) (state : IO.Ref ControlPlane.State)
    (message : Option Message) : IO Response := do
  match message.bind Message.request? with
  | none => return ⟨400, .empty⟩
  | some request =>
      let occasion : ControlPlane.Occasion :=
        ⟨← currentTime, "agent-" ++ (← freshId), ← freshId⟩
      state.modifyGet (service.handle occasion request)

def serveClient (service : ControlPlane.Service) (state : IO.Ref ControlPlane.State)
    (client : Client) : Async Unit := do
  let message ← receiveMessage client false []
  let response ← answer service state message
  client.send response.message.octets.toByteArray
  client.shutdown

/-- Serves connections until the program is told to stop. -/
partial def serveOn (server : Server) (interrupt : Signal.Waiter) (serve : Client → Async Unit) :
    Async Unit := do
  let client ← Selectable.one #[
    .case server.acceptSelector (fun client => return some client),
    .case interrupt.selector (fun _ => return none)]
  if let some client := client then
    discard (serve client).asTask
    serveOn server interrupt serve

/-- Removes what has expired from the nonces that are kept, again and again. -/
partial def sweepOn (interval : Duration) (state : IO.Ref ControlPlane.State) : IO Unit := do
  let now ← currentTime
  state.modify fun state => { state with nonces := state.nonces.evictExpired now.seconds }
  rest interval
  sweepOn interval state

/-- How many connections may wait to be served. -/
def waitingRoom : UInt32 := 1024

def runControlPlane : IO UInt32 := do
  let path ← IO.getEnv ControlPlane.configVariable
  let file ← path.mapM machineFiles.readText
  let server ← Server.mk
  let state ← IO.mkRef ControlPlane.State.empty
  let outside : ControlPlane.Outside IO := {
    bind := fun address => do
      try
        server.bind (socketAddress address.ip address.port)
        server.listen waitingRoom
        return .ok ()
      catch error => return .error (fileError error).message
    serve := fun config => do
      let interrupt ← Signal.Waiter.mk .sigint false
      discard (IO.asTask (sweepOn (.ofSeconds config.nonceSweepInterval) state))
      (serveOn server interrupt (serveClient config.service state)).block
    log := fun notice => tell notice.line }
  finish (← ControlPlane.runProgram outside file)

end Muster

/-- Runs the control plane, or the agent with the arguments behind the first one. -/
def main (arguments : List String) : IO UInt32 := do
  match arguments with
  | ["control-plane"] => Muster.runControlPlane
  | "agent" :: arguments => Muster.runAgent arguments
  | _ =>
      IO.eprintln "Usage: muster control-plane | muster agent [OPTIONS]"
      return 1
