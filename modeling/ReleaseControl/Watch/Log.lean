import ReleaseControl.Store.Program
import ReleaseControl.Watch.Channel

/-! # Events of store calls

Every successful write is followed by one event: a creation, an update with the generations
before and after it (equal ones for a write to the status), or a deletion with the last
generation. Reads and failing calls have no event. -/

namespace ReleaseControl

/-- The event of a successful call. -/
def StoreCall.event? : (c : StoreCall) → c.Reply → Option WatchEvent
  | .get .., _ | .list .., _ => none
  | .create kind _, stored | .update kind _, stored | .updateStatus kind _, stored =>
    some (written kind stored)
  | .delete kind key, (stored : StoredRecord) => some (.deleted kind key stored.generation)
where
  written (kind : String) (stored : StoredRecord) : WatchEvent :=
    match stored.previousGeneration with
    | some old => .updated kind stored.key old stored.generation
    | none => .created kind stored.key stored.generation

/-- Sends the event of an answer, if it has one. -/
def Channel.publish (c : StoreCall) (answer : Except StoreError c.Reply) (ch : Channel) :
    Channel :=
  match answer with
  | .error _ => ch
  | .ok reply =>
    match c.event? reply with
    | some e => (ch.send e).2
    | none => ch

/-- A handler whose successful writes are published. -/
def Program.Handler.published {σ : Type} (handler : Program.Handler σ) :
    Program.Handler (σ × Channel) := fun c (s, ch) =>
  match handler c s with
  | (.returned answer, s) => (.returned answer, s, ch.publish c answer)
  | (.crashed, s) => (.crashed, s, ch)

end ReleaseControl
