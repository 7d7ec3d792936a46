import Reckoner.Batch.Client
import Reckoner.Batch.Schedule
import Reckoner.Text.Line

/-!
# The batch server

The server receives the text of a batch from one client, runs the batch, writes each outcome to a
file and sends the file back.
-/

namespace Reckoner

/-- A server of batches. -/
structure Server where
  /-- Where the server listens. -/
  endpoint : Endpoint
  /-- The file of the results. -/
  output : Path
  /-- The most workers at one time; nothing when it is left to the machine. -/
  limit : Option { value : Nat // 0 < value }

namespace Server

/-- The limit of workers among members. -/
def limitOf (members : List (String × Json)) : Checked (Option { value : Nat // 0 < value }) :=
  Checked.defaulted "max_workers" none (fun value => (Reading.positive value).map some) members

/-- The server that a value describes. -/
def ofJson (value : Json) : Checked Server := do
  let members ← Checked.members (.notRecord "ExpressionServer") value
  let (endpoint, output, limit) ← (Endpoint.ofMembers members).both
    ((Checked.required "output_file" Path.reading members).both (limitOf members))
  return ⟨endpoint, output, limit⟩

/-- The bytes of the chunks before the first empty one. -/
def received (chunks : List Bytes) : Bytes :=
  (chunks.takeWhile fun chunk => !chunk.isEmpty).flatten

/-- The lines of a text that are not blank, without the blanks at their ends. -/
def expressionsOf (chars : List Char) : List String :=
  (((Text.lines chars).map Text.trim).filter fun line => !line.isEmpty).map String.ofList

/-- The expressions that arrive in chunks. The chunks are joined before they are read, so it makes
no difference where the text was cut. -/
def receive (chunks : List Bytes) : Except Text.Utf8.DecodeError (List String) :=
  (Text.Utf8.decode (received chunks)).map expressionsOf

/-- How the machine and the client behave. -/
structure Setting where
  /-- When workers report. -/
  schedule : Schedule
  /-- What a worker sends through its pipe. -/
  launch : Worker → Option Json
  /-- The limit of workers of a server that was given none. -/
  limit : { value : Nat // 0 < value }
  /-- The address that the client connects from. -/
  peer : String
  /-- The client is gone when the results are sent. -/
  clientGone : Bool

/-- Workers that report promptly and truthfully, to a client that waits for the results. -/
def Setting.orderly (limit : { value : Nat // 0 < value }) (peer : String) : Setting where
  schedule := .prompt
  launch worker := worker.run.sent
  limit := limit
  peer := peer
  clientGone := false

/-- Why a server ends without results. -/
inductive ServeError where
  /-- The file of the results cannot be written. -/
  | file (error : FileError)
  /-- What arrived is no text. -/
  | undecodable (error : Text.Utf8.DecodeError)
  /-- What a worker sent is no outcome. -/
  | invalid (issues : List Issue)

/-- What serving a client leaves. -/
structure Run where
  /-- The files. -/
  folder : Folder
  /-- The bytes that were sent to the client. -/
  sent : Bytes
  /-- What the server told. -/
  records : List Log.Record
  /-- What ended the server early. -/
  raised : Option ServeError

/-- The words for a client that is gone. -/
def brokenPipe : String := "[Errno 32] Broken pipe"

/-- Serves a connected client. The file is emptied before anything is received. -/
def serveConnection (server : Server) (setting : Setting) (folder : Folder) (chunks : List Bytes) :
    Run :=
  match folder.write server.output [] with
  | .error error => ⟨folder, [], [], some (.file error)⟩
  | .ok folder =>
    match receive chunks with
    | .error error => ⟨folder, [], [], some (.undecodable error)⟩
    | .ok expressions =>
      let count := Log.info ("📥 Received " ++ toString expressions.length ++ " expressions")
      let limit := server.limit.getD setting.limit
      match Batch.run setting.schedule limit.val limit.property setting.launch expressions with
      | .error issues => ⟨folder, [], [count], some (.invalid issues)⟩
      | .ok state =>
        let results := Text.Utf8.encode (Batch.resultsText state.outcomes)
        match folder.write server.output results with
        | .error error => ⟨folder, [], count :: state.records, some (.file error)⟩
        | .ok folder =>
          if setting.clientGone then
            ⟨folder, [], count :: state.records ++ [Log.error
              ("🔌❌ Client disconnected before receiving results: " ++ brokenPipe)], none⟩
          else
            ⟨folder, results, count :: state.records ++ [Log.info "✉️ Results sent to client"],
              none⟩

/-- What a server does with its socket to serve one client. -/
def calls (server : Server) : List SocketCall :=
  [.opened server.endpoint.host.version, .reusable,
    .bound server.endpoint.host.text server.endpoint.port, .listening, .accepted, .closed]

/-- Waits for one client and serves it. -/
def start (server : Server) (setting : Setting) (folder : Folder) (chunks : List Bytes) : Run :=
  let run := server.serveConnection setting folder chunks
  { run with
    records :=
      [Log.info ("🖥️ Starting server on " ++ server.endpoint.text),
        Log.info "🖥️ Server listening",
        Log.info ("🔌 Client connected from " ++ setting.peer)] ++ run.records }

/-- The server as the other end of a client's connection: what it leaves in the folder and what it
sends back. -/
def asPeer (server : Server) (setting : Setting) : Client.Peer := fun folder content =>
  let run := server.serveConnection setting folder [content]
  (run.folder, [run.sent])

end Server

end Reckoner
