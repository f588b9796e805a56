/-
# Sessions

A session is a writer together with the directory in which it makes its files. It answers requests
one by one and keeps account of the outputs that were offered to the writer.
-/
import LoadOrder.Writer

namespace LoadOrder

/-- What a session can be asked. -/
inductive Request where
  | init
  /-- Offer a sink over an empty output. -/
  | attach (path : FilePath) (medium : Medium)
  | load (type : LoadedType) (origin : Option Origin)
  | unload (identity : TypeIdentity)
  | close
  | idOf (identity : TypeIdentity)
  | outputPath
  | files
  | describe
  deriving DecidableEq, Repr, Inhabited

/-- What a session answers. -/
inductive Answer where
  | done
  | finished (result : Except Error Unit)
  | outcome (outcome : Outcome)
  | id (id : Option RecordId)
  | path (path : Option FilePath)
  | directory (directory : Directory)
  | text (text : String)

/-- A writer at work in a directory. -/
structure Session (σ : Type) where
  writer : Writer σ
  directory : Directory := {}
  launch : Launch := default
  /-- The outputs offered so far, the oldest first, without those that the writer took. -/
  offered : List (Option Output) := []

namespace Session

variable {σ : Type}

/-- Offers a sink to the writer, unless it could not be started. -/
def offer (started : Effect Sink (Except Error Unit)) (session : Session σ) :
    Effect (Session σ) (Except Error Unit) :=
  match started.result with
  | .error error =>
    { result := .error error
      state := { session with offered := session.offered ++ [some started.state.output] }
      notices := started.notices }
  | .ok () =>
    let attached := session.writer.attach started.state
    let (result, declined) := attached.result
    { result
      state := { session with
        writer := attached.state
        offered := session.offered ++ [declined.map Sink.output] }
      notices := started.notices ++ attached.notices }

/-- Offers a new sink to the writer. -/
def attach (path : FilePath) (medium : Medium) (session : Session σ) :
    Effect (Session σ) (Except Error Unit) :=
  session.offer (Sink.start path { medium } none)

/-- Passes a request on to the writer. -/
def answer [Catalog σ] (session : Session σ) : Request → Effect (Session σ) Answer
  | .init =>
    let e := session.writer.init session.launch session.directory
    { result := .finished e.result
      state := { session with writer := e.state.1, directory := e.state.2 }
      notices := e.notices }
  | .attach path medium =>
    let e := session.attach path medium
    { e with result := .finished e.result }
  | .load type origin =>
    let e := session.writer.load type origin
    { result := .outcome e.result, state := { session with writer := e.state },
      notices := e.notices }
  | .unload identity =>
    let e := session.writer.unload identity
    { result := .done, state := { session with writer := e.state }, notices := e.notices }
  | .close =>
    let e := session.writer.close
    { result := .done, state := { session with writer := e.state }, notices := e.notices }
  | .idOf identity => { result := .id (session.writer.idOf identity), state := session }
  | .outputPath => { result := .path session.writer.outputPath, state := session }
  | .files =>
    { result := .directory (session.writer.saveTo session.directory), state := session }
  | .describe => { result := .text session.writer.text, state := session }

/-- Each missing output replaced by the next one that the writer had taken. -/
def fill : List (Option Output) → List Output → List Output
  | [], _ => []
  | some output :: offered, taken => output :: fill offered taken
  | none :: offered, output :: taken => output :: fill offered taken
  | none :: offered, [] => fill offered []

/-- The outputs offered to the writer as they are now, the oldest first. -/
def outputs (session : Session σ) : List Output :=
  let sinks := session.writer.retired ++ session.writer.sink.toList
  fill session.offered ((sinks.filter fun sink => sink.place.isNone).map Sink.output)

/-- Closes the writer for good. -/
def finish (session : Session σ) : Effect (Session σ) Directory :=
  let e := session.writer.close
  { result := e.state.saveTo session.directory
    state := { session with writer := e.state }
    notices := e.notices }

end Session

end LoadOrder
