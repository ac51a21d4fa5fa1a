import Muster.Console
import Muster.Service.Identifier
import Muster.Service.Wire
import Std.Async.DNS
import Std.Async.TCP

/-!
# The program

Reads the environment and the file that the command names, prints what the command comes to, and
serves the desk on a socket. Every decision is made elsewhere.
-/

namespace Muster.Program

open Std.Async

/-- What kept a file from being read. -/
def failureOf : IO.Error → ReadFailure
  | .noFileOrDirectory .. => .notFound
  | .permissionDenied _ code details | .resourceExhausted _ code details
  | .noSuchThing _ code details | .invalidArgument _ code details =>
    .other (details ++ " (os error " ++ toString code ++ ")")
  | .inappropriateType _ code details =>
    match code.toNat with
    | 20 => .notDirectory
    | 21 => .isDirectory
    | n => .other (details ++ " (os error " ++ toString n ++ ")")
  | e => .other (toString e)

/-- The text of a file. -/
def readText (path : String) : IO (Except ReadFailure String) := do
  match ← (IO.FS.readBinFile path).toBaseIO with
  | .error e => return .error (failureOf e)
  | .ok bytes =>
    match String.fromUTF8? bytes with
    | some text => return .ok text
    | none => return .error .notUtf8

/-- The variables of the environment that the program looks at. -/
def readVariables : IO (String → Option String) := do
  let pairs ← Setup.variableNames.mapM fun name => do return (name, ← IO.getEnv name)
  return fun name => (pairs.lookup name).join

/-- The socket addresses of an endpoint. -/
def socketAddresses (e : Endpoint) : IO (List Std.Net.SocketAddress) := do
  let port := e.port.toUInt16
  let ofAddress : Std.Net.IPAddr → Std.Net.SocketAddress
    | .v4 address => .v4 ⟨address, port⟩
    | .v6 address => .v6 ⟨address, port⟩
  match Std.Net.IPv4Addr.ofString e.host with
  | some address => return [.v4 ⟨address, port⟩]
  | none => return ((← (DNS.getAddrInfo e.host "").block).map ofAddress).toList

/-- Answers the one request of a connection. -/
def answer (desk : IO.Ref Desk) (client : TCP.Socket.Client) : IO Unit := do
  let some bytes ← (client.recv? Request.readSize.toUInt64).block | return
  let now ← IO.monoNanosNow
  let newId := Session.idOf ((← IO.getRandomBytes 16).toList.map UInt8.toNat)
  let reply ← desk.modifyGet fun d =>
    let (d, reply) := d.answer Json.read? now newId (bytes.toList.map UInt8.toNat)
    (reply, d)
  if let some reply := reply then
    (client.send reply.text.toUTF8).block
  client.shutdown.block

/-- Listens on an endpoint and answers every connection. -/
def serve (endpoint : Endpoint) (desk : Desk) : IO Unit := do
  let server ← TCP.Socket.Server.mk
  let some address := (← socketAddresses endpoint).head?
    | throw (IO.userError "could not resolve to any addresses")
  server.bind address
  server.listen 128
  let desk ← IO.mkRef desk
  repeat
    let client ← server.accept.block
    let _ ← IO.asTask (answer desk client)

/-- Runs a command line and gives the exit code. -/
def run (args : List String) : IO UInt32 := do
  let args := "armoury" :: args
  let env ← readVariables
  let path? := (Console.command? args).map (Console.codexPath (.ofVariables env) args)
  let text ← match path? with
    | some path => readText path
    | none => pure (.error .notFound)
  match Console.run (fun _ => text) env args with
  | .done outcome =>
    IO.print outcome.out
    IO.eprint outcome.err
    return outcome.code.toUInt32
  | .serve endpoint desk =>
    try
      serve endpoint desk
      return 0
    catch e =>
      IO.eprintln ("server error: " ++ toString e)
      return 1

end Muster.Program

def main (args : List String) : IO UInt32 := Muster.Program.run args
