import RecordStore.Program

namespace RecordStore

/-!
# A scripted execution surface

Answers calls from a list of prepared replies, one for each call in order. When the script has run
out every call succeeds with nothing to report.
-/

structure ScriptReply where
  failure : Option String
  rows : List Row
  count : Nat

namespace ScriptReply

def silent : ScriptReply :=
  ⟨none, [], 0⟩

/-- The answer to a call that does not fail; a batch counts one row for each of its own. -/
def succeed (r : ScriptReply) : {k : ReplyKind} → Call String k → k.Reply
  | _, .query _ _ _ _ => r.rows
  | _, .write _ _ _ => r.count
  | _, .batchWrite _ _ rows => rows.map fun _ ↦ 1
  | _, .openTransaction _ => ()
  | _, .commit => ()
  | _, .rollback => ()

def answer (r : ScriptReply) {k : ReplyKind} (c : Call String k) : Except Error k.Reply :=
  match r.failure with
  | some text => .error (.execution (.stated text))
  | none => .ok (r.succeed c)

end ScriptReply

def Surface.script : Surface (List ScriptReply) where
  answer c replies :=
    match replies with
    | [] => (ScriptReply.silent.answer c, [])
    | r :: rest => (r.answer c, rest)

end RecordStore
