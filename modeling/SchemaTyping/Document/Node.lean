import SchemaTyping.Document.Token

/-!
# Nodes of a document

A **node** is a scalar, a sequence or a mapping. The structure of a document
is in the columns of its tokens: the entries of a mapping are keys that start
in one column, the items of a sequence are dashes in one column, and what is
further to the right belongs to the entry or the item before it. A sequence
may stand in the column of the key it belongs to. Inside brackets, columns do
not count.

A key is in a mapping only once. The readers below take the tokens from the
front and answer with those that are left; their fuel bounds the steps down
into the structure, and the number of tokens is more than enough of it.
-/

namespace SchemaTyping.Document

/-- **A node of a document.** -/
inductive Node where
  /-- A scalar without quotes, the empty one where nothing is written. -/
  | plain (text : String)
  /-- A scalar in quotes. -/
  | quoted (text : String)
  | sequence (items : List Node)
  | mapping (entries : List (String × Node))
  deriving Repr, Inhabited

/-- The node of a key or a dash that nothing follows. -/
def Node.absent : Node := .plain ""

/-- The tokens that are left to read. -/
abbrev Tokens := List PlacedToken

/-- The fault of tokens that do not go on as they should. -/
def unexpected {α : Type} : Tokens → Except Stop α
  | [] => .error ⟨none, .ended⟩
  | token :: _ => .error ⟨some token.place, .token⟩

/-- Reads a key. -/
def readKey : Tokens → Except Stop ((Place × String) × Tokens)
  | ⟨.plain text, place⟩ :: rest | ⟨.quoted text, place⟩ :: rest =>
    .ok ((place, String.ofList text), rest)
  | rest => unexpected rest

/-- Reads a key that is not one of the given ones. -/
def readNewKey (keys : List String) (tokens : Tokens) :
    Except Stop ((Place × String) × Tokens) :=
  match readKey tokens with
  | .ok ((place, key), rest) =>
    if keys.contains key then .error ⟨some place, .repeatedKey key⟩
    else .ok ((place, key), rest)
  | .error fault => .error fault

/-! ## Flows -/

mutual

/-- Reads a scalar or what stands in brackets. -/
def readFlow : Nat → Tokens → Except Stop (Node × Tokens)
  | 0, tokens => unexpected tokens
  | fuel + 1, tokens =>
    match tokens with
    | ⟨.plain text, _⟩ :: rest => .ok (.plain (String.ofList text), rest)
    | ⟨.quoted text, _⟩ :: rest => .ok (.quoted (String.ofList text), rest)
    | ⟨.openList, _⟩ :: rest => do
      let (items, rest) ← readFlowItems fuel rest
      .ok (.sequence items, rest)
    | ⟨.openMap, _⟩ :: rest => do
      let (entries, rest) ← readFlowEntries fuel [] rest
      .ok (.mapping entries, rest)
    | rest => unexpected rest

/-- Reads items up to the closing bracket. -/
def readFlowItems : Nat → Tokens → Except Stop (List Node × Tokens)
  | 0, tokens => unexpected tokens
  | fuel + 1, tokens =>
    match tokens with
    | ⟨.closeList, _⟩ :: rest => .ok ([], rest)
    | tokens => do
      let (item, rest) ← readFlow fuel tokens
      match rest with
      | ⟨.closeList, _⟩ :: rest => .ok ([item], rest)
      | ⟨.comma, _⟩ :: rest =>
        let (items, rest) ← readFlowItems fuel rest
        .ok (item :: items, rest)
      | rest => unexpected rest

/-- Reads entries up to the closing bracket, their keys not among the given
ones. -/
def readFlowEntries : Nat → List String → Tokens →
    Except Stop (List (String × Node) × Tokens)
  | 0, _, tokens => unexpected tokens
  | fuel + 1, keys, tokens =>
    match tokens with
    | ⟨.closeMap, _⟩ :: rest => .ok ([], rest)
    | tokens => do
      let ((_, key), rest) ← readNewKey keys tokens
      let (value, rest) ← readFlowValue fuel rest
      match rest with
      | ⟨.closeMap, _⟩ :: rest => .ok ([(key, value)], rest)
      | ⟨.comma, _⟩ :: rest =>
        let (entries, rest) ← readFlowEntries fuel (key :: keys) rest
        .ok ((key, value) :: entries, rest)
      | rest => unexpected rest

/-- Reads the value of a key, which may be absent. -/
def readFlowValue : Nat → Tokens → Except Stop (Node × Tokens)
  | 0, tokens => unexpected tokens
  | fuel + 1, tokens =>
    match tokens with
    | ⟨.colon, _⟩ :: rest =>
      match rest with
      | ⟨.comma, _⟩ :: _ | ⟨.closeMap, _⟩ :: _ => .ok (.absent, rest)
      | rest => readFlow fuel rest
    | rest => .ok (.absent, rest)

end

/-! ## Blocks -/

/-- Whether the tokens start with a key and its colon. -/
def startsEntry : Tokens → Bool
  | ⟨.plain _, place⟩ :: ⟨.colon, colon⟩ :: _
  | ⟨.quoted _, place⟩ :: ⟨.colon, colon⟩ :: _ => place.line == colon.line
  | _ => false

mutual

/-- Reads the node that the tokens start with. -/
def readBlock : Nat → Tokens → Except Stop (Node × Tokens)
  | 0, tokens => unexpected tokens
  | fuel + 1, tokens =>
    match tokens with
    | ⟨.dash, place⟩ :: _ => do
      let (items, rest) ← readItems fuel place.column tokens
      .ok (.sequence items, rest)
    | ⟨_, place⟩ :: _ =>
      if startsEntry tokens then do
        let (entries, rest) ← readEntries fuel place.column [] tokens
        .ok (.mapping entries, rest)
      else readFlow fuel tokens
    | [] => .ok (.absent, [])

/-- Reads the items whose dashes are in the given column. -/
def readItems : Nat → Nat → Tokens → Except Stop (List Node × Tokens)
  | 0, _, tokens => unexpected tokens
  | fuel + 1, column, tokens =>
    match tokens with
    | ⟨.dash, place⟩ :: rest =>
      if place.column = column then do
        let (item, rest) ← readItem fuel place rest
        let (items, rest) ← readItems fuel column rest
        .ok (item :: items, rest)
      else .ok ([], tokens)
    | rest => .ok ([], rest)

/-- Reads the item of a dash at the given place. -/
def readItem : Nat → Place → Tokens → Except Stop (Node × Tokens)
  | 0, _, tokens => unexpected tokens
  | fuel + 1, dash, tokens =>
    match tokens with
    | ⟨_, place⟩ :: _ =>
      if place.line = dash.line ∨ dash.column < place.column then
        readBlock fuel tokens
      else .ok (.absent, tokens)
    | [] => .ok (.absent, [])

/-- Reads the entries whose keys are in the given column and not among the
given ones. -/
def readEntries : Nat → Nat → List String → Tokens →
    Except Stop (List (String × Node) × Tokens)
  | 0, _, _, tokens => unexpected tokens
  | fuel + 1, column, keys, tokens =>
    match tokens with
    | ⟨_, place⟩ :: _ =>
      if place.column = column ∧ startsEntry tokens then do
        let ((place, key), rest) ← readNewKey keys tokens
        -- `startsEntry` has seen the colon that is dropped here.
        let (value, rest) ← readValue fuel place (rest.drop 1)
        let (entries, rest) ← readEntries fuel column (key :: keys) rest
        .ok ((key, value) :: entries, rest)
      else .ok ([], tokens)
    | [] => .ok ([], [])

/-- Reads the value of a key at the given place, after its colon. On the line
of the key there is no room for a block. -/
def readValue : Nat → Place → Tokens → Except Stop (Node × Tokens)
  | 0, _, tokens => unexpected tokens
  | fuel + 1, key, tokens =>
    match tokens with
    | ⟨token, place⟩ :: _ =>
      if place.line = key.line then readFlow fuel tokens
      -- The dashes of a sequence may stand in the column of their key.
      else if key.column < place.column
          ∨ (key.column = place.column ∧ token = .dash) then
        readBlock fuel tokens
      else .ok (.absent, tokens)
    | [] => .ok (.absent, [])

end

/-! ## Documents -/

/-- Why a document is not what it should be. -/
inductive DocumentError where
  /-- The text has no structure, for a fault at a place, or at its end. -/
  | fault (place : Option Place) (fault : Fault)
  /-- A field has to be there and is not. -/
  | missing (field : String)
  /-- A field does not have the form it should have. -/
  | unfit (field : String)
  deriving DecidableEq, Repr

/-- The error in words. Lines and columns are counted from one. -/
def DocumentError.message : DocumentError → String
  | .fault none cause => cause.message
  | .fault (some place) cause =>
    cause.message ++ " at line " ++ toString (place.line + 1) ++ " column "
      ++ toString (place.column + 1)
  | .missing field => "missing field '" ++ field ++ "'"
  | .unfit field => "field '" ++ field ++ "' has the wrong form"

/-- Reads the only node that the tokens make. -/
def Node.ofTokens (tokens : Tokens) : Except DocumentError Node :=
  match readBlock (4 * tokens.length + 4) tokens with
  | .ok (node, []) => .ok node
  | .ok (_, token :: _) => .error (.fault (some token.place) .token)
  | .error stop => .error (.fault stop.place stop.fault)

/-- **The node of a document.** A document without tokens is an empty plain
scalar. -/
def Node.read (text : String) : Except DocumentError Node :=
  match tokens text.toList with
  | .ok tokens => Node.ofTokens tokens
  | .error stop => .error (.fault stop.place stop.fault)

end SchemaTyping.Document
