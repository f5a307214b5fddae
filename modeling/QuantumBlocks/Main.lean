import QuantumBlocks.Chart.Png
import QuantumBlocks.Service.Options
import QuantumBlocks.Service.Router
import QuantumBlocks.Service.Wire
import QuantumBlocks.Simulator.Store

/-!
# The program

The command line is read, and then requests are answered one after the other: they come in on the
standard input and the responses go out on the standard output, as under a listener that hands
over its connections.
-/

namespace QuantumBlocks.Service

open Json Number Chart

/-- Seconds from milliseconds. -/
def secondsOf (milliseconds : Nat) : Value :=
  .number (.double ⟨false, Binary64.div (Binary64.ofNat milliseconds) (Binary64.ofNat 1000)⟩)

/-- Times in seconds, and pictures as addresses that hold them. -/
def presentation (milliseconds : Nat) : Presentation where
  time
    | .zero => secondsOf 0
    | .measured => secondsOf milliseconds
  image p := .string (Png.dataUri (Png.encode p))

/-- The server on a simulator. -/
def simulatorServer (configuration : Configuration) (simulator : Simulator) :
    Server Simulator where
  executor :=
    ⟨Simulator.backend simulator.capabilities (fun n => "job-" ++ toString n) {},
      configuration.limits⟩
  allowAnyOrigin := configuration.allowAnyOrigin

/-- A line without its end. -/
def withoutEnd (s : String) : String :=
  String.ofList (s.toList.filter fun c => c ≠ '\r' && c ≠ '\n')

/-- The lines up to an empty one or the end of the input. -/
partial def readLines (input : IO.FS.Stream) (lines : List String) : IO (List String) := do
  let line := withoutEnd (← input.getLine)
  if line.isEmpty then return lines.reverse else readLines input (line :: lines)

/-- So many bytes, or fewer at the end of the input. -/
partial def readBytes (input : IO.FS.Stream) (size : Nat) (bytes : ByteArray) : IO ByteArray := do
  if size ≤ bytes.size then return bytes
  let more ← input.read (size - bytes.size).toUSize
  if more.isEmpty then return bytes else readBytes input size (bytes ++ more)

/-- Answers requests until the input ends. -/
partial def serve (configuration : Configuration) (input output : IO.FS.Stream)
    (simulator : Simulator) : IO Unit := do
  let some head := Head.read? (← readLines input []) | return
  let bytes ← readBytes input head.bodySize ByteArray.empty
  let request := head.request ((String.fromUTF8? bytes).getD "")
  let start ← IO.monoMsNow
  let (response, simulator) ← IO.lazyPure fun _ =>
    ((simulatorServer configuration simulator).respond request).run simulator
  let stop ← IO.monoMsNow
  output.putStr (response.render (presentation (stop - start)))
  output.flush
  serve configuration input output simulator

/-- A word of the system's random numbers. -/
def randomWord : IO UInt64 := do
  return (← IO.getRandomBytes 8).foldl (fun word byte => word * 256 + byte.toUInt64) 0

/-- Starts the service with options. -/
def start (options : Options) : IO UInt32 := do
  let configuration := options.configuration
  (← IO.getStderr).putStrLn ("Starting blockq server at http://" ++ configuration.bind.render)
  serve configuration (← IO.getStdin) (← IO.getStdout)
    (Simulator.init configuration.maxSimulatorQubits (← randomWord))
  return 0

/-- Prints a text instead of starting. -/
def decline (e : OptionError) : IO UInt32 := do
  if e.isRequest then
    (← IO.getStdout).putStr e.message
    return 0
  else
    (← IO.getStderr).putStr e.message
    return 2

end QuantumBlocks.Service

open QuantumBlocks Service

/-- The program with its arguments. -/
def main (arguments : List String) : IO UInt32 := do
  let bind ← IO.getEnv Setting.bind.environmentName
  let qubits ← IO.getEnv Setting.maxSimulatorQubits.environmentName
  let lookup (setting : Setting) : Option String :=
    match setting with
    | .bind => bind
    | .maxSimulatorQubits => qubits
  match Options.read arguments lookup with
  | .ok options => start options
  | .error e => decline e
