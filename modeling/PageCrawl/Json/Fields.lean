import PageCrawl.Json.Reader

/-!
# Reading records

A record is read from an object whose members are its fields, in any order, or from a list of its
fields in order. Members of other names are skipped, a field that comes twice is a mismatch, and so
is one that is absent where the record needs it: a list has to hold all fields, an object those
without which the record cannot be made.
-/

namespace PageCrawl.Json

/-- A field of a record that is being read. -/
structure Field (σ : Type) where
  name : String
  /-- Whether it has been read. -/
  isSet : σ → Bool
  /-- Reads its value into the record. -/
  read : σ → Reader σ

/-- Reads the fields of a record from the elements of a list, without the bracket that opens
it. `first` says that no element was read yet. -/
def listFields {σ : Type} : Bool → List (Field σ) → σ → Reader σ
  | _, [], s, cs => .ok (s, cs)
  | first, f :: fs, s, cs =>
    match afterSpace cs with
    | [] => .error .ended
    | ']' :: _ => .error .mismatch
    | c :: cs =>
      let step (cs : List Char) : Except Fault (σ × List Char) := do
        let (s, cs) ← f.read s cs
        listFields false fs s cs
      if first then step (c :: cs)
      else if c == ',' then
        match afterSpace cs with
        | [] => .error .ended
        | ']' :: _ => .error .malformed
        | cs => step cs
      else .error .malformed

/-- Reads a member of an object into a record. -/
def readMember {σ : Type} (fields : List (Field σ)) (s : σ) : Reader σ := fun cs => do
  let (name, cs) ← stringBody cs
  let value : Except Fault (List Char) :=
    match afterSpace cs with
    | [] => .error .ended
    | ':' :: cs => .ok cs
    | _ => .error .malformed
  match fields.find? (fun f => f.name.toList == name) with
  | some f =>
    if f.isSet s then throw .mismatch
    f.read s (← value)
  | none =>
    let ((), cs) ← skip (← value)
    return (s, cs)

/-- Reads the fields of a record from at most the given number of members of an object, without
the brace that opens it and up to the one that closes it. -/
def objectFields {σ : Type} (fields : List (Field σ)) : Nat → Bool → σ → Reader σ
  | 0, _, _, _ => .error .ended
  | n + 1, first, s, cs =>
    let step (cs : List Char) : Except Fault (σ × List Char) := do
      let (s, cs) ← readMember fields s cs
      objectFields fields n false s cs
    match afterSpace cs with
    | [] => .error .ended
    | '}' :: cs => .ok (s, '}' :: cs)
    | '"' :: cs => if first then step cs else .error .malformed
    | ',' :: cs =>
      if first then .error .malformed
      else
        match afterSpace cs with
        | [] => .error .ended
        | '"' :: cs => step cs
        | _ => .error .malformed
    | _ => .error .malformed

/-- Reads a closing bracket. -/
def close (bracket : Char) : Reader Unit := fun cs =>
  match afterSpace cs with
  | [] => .error .ended
  | c :: cs => if c == bracket then .ok ((), cs) else .error .malformed

/-- Reads a record. `make` makes it of the fields that were read, if it can. -/
def record {σ α : Type} (fields : List (Field σ)) (start : σ) (make : σ → Option α) : Reader α :=
  fun cs =>
    let finish (bracket : Char) (p : σ × List Char) : Except Fault (α × List Char) :=
      match make p.1 with
      | none => .error .mismatch
      | some x => do
        let ((), cs) ← close bracket p.2
        return (x, cs)
    match afterSpace cs with
    | '[' :: cs => do finish ']' (← listFields true fields start cs)
    | '{' :: cs => do finish '}' (← objectFields fields (cs.length + 1) true start cs)
    | cs => .error (wrongKind cs)

end PageCrawl.Json
