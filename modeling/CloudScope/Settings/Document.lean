import CloudScope.Settings.Moment

/-!
# Settings documents

A document of settings is TOML of which only strings, tables and moments are of use: any other value
makes it no document of settings. It is read into statements, each a header that opens a table or a
key that is given a value.
-/

namespace CloudScope.Settings

inductive Value where
  | text (s : String)
  /-- A date or time, by its text. -/
  | moment (text : String)
  /-- A table in braces, of strings. -/
  | table (entries : List (List String × String))
deriving DecidableEq, Repr

/-- One statement of a document. Keys are given by their parts between dots. -/
inductive Statement where
  | header (key : List String)
  | assign (key : List String) (value : Value)
deriving DecidableEq, Repr

/-! ## Keys and values -/

/-- Whether a character may stand in a key without quotes. -/
def isBareKeyChar (c : Char) : Bool :=
  c.isAlphanum || c == '_' || c == '-'

def keyPart : DocumentReader String
  | [] => .error .malformed
  | c :: rest =>
    if c = '"' ∨ c = '\'' then (lineString c rest).map fun (t, r) => (t, r.behind _)
    else if isBareKeyChar c then
      .ok (String.ofList (c :: rest.takeWhile isBareKeyChar),
        (Within.dropWhile isBareKeyChar rest).behind c)
    else .error .malformed

/-- Reads the parts of a key, with dots between them. -/
def key (s : List Char) : Except Fault (List String × Rest s) :=
  match gapped keyPart s with
  | .error f => .error f
  | .ok (part, rest) =>
    match gapped (mark '.') rest.val with
    | .error _ => .ok ([part], rest)
    | .ok ((), more) =>
      match key more.val with
      | .error f => .error f
      | .ok (parts, last) => .ok (part :: parts, (rest.trans more).trans last)
termination_by s.length
decreasing_by
  have := rest.property; have := more.property
  omega

/-- Reads a key, an equals sign and a value. -/
def assignment {β : Type} (value : DocumentReader β) : DocumentReader (List String × β) := fun s =>
  match key s with
  | .error f => .error f
  | .ok (k, rest) =>
    match gapped (mark '=') rest.val with
    | .error f => .error f
    | .ok ((), more) =>
      match gapped value more.val with
      | .error f => .error f
      | .ok (v, last) => .ok ((k, v), (rest.trans more).trans last)

/-- Reads the entries of a table in braces, one at least, up to the closing brace. -/
def tableEntries (s : List Char) : Except Fault (List (List String × String) × Rest s) :=
  match assignment string s with
  | .error f => .error f
  | .ok (entry, rest) =>
    match gapped (mark ',') rest.val with
    | .ok ((), more) =>
      match tableEntries more.val with
      | .error f => .error f
      | .ok (entries, last) => .ok (entry :: entries, (rest.trans more).trans last)
    | .error _ =>
      (gapped (mark '}') rest.val).map fun (_, last) => ([entry], rest.trans last)
termination_by s.length
decreasing_by
  have := rest.property; have := more.property
  omega

def value : DocumentReader Value
  | '{' :: rest =>
    match gapped (mark '}') rest with
    | .ok ((), r) => .ok (.table [], r.behind _)
    | .error _ => (tableEntries rest).map fun (entries, r) => (.table entries, r.behind _)
  | s =>
    match string s with
    | .ok (t, r) => .ok (.text t, r)
    | .error _ => (moment s).map fun (t, r) => (.moment (String.ofList t), r)

/-! ## Documents -/

/-- Reads a statement that is not empty. -/
def statement : DocumentReader Statement
  | '[' :: rest =>
    match key rest with
    | .error f => .error f
    | .ok (k, r) =>
      (gapped (mark ']') r.val).map fun (_, last) => (.header k, (r.trans last).behind _)
  | s => (assignment value s).map fun ((k, v), r) => (.assign k v, r)

/-- The text behind the comment at its front, or all of it if there is none. -/
def skipComment : List Char → List Char
  | '#' :: rest => rest.dropWhile isPlain
  | s => s

theorem length_skipComment_le (s : List Char) : (skipComment s).length ≤ s.length := by
  unfold skipComment
  split
  · exact Nat.le_succ_of_le (List.dropWhile_sublist _).length_le
  · exact Nat.le_refl _

/-- What follows a line, behind its spaces and its comment. The last line needs no line break. -/
def lineEnd (s : List Char) : Except Fault { r : List Char // r.length ≤ s.length ∧
    (r.length < s.length ∨ r = []) } :=
  have hle : (skipComment (skipGap s)).length ≤ s.length :=
    Nat.le_trans (length_skipComment_le _) (length_skipGap_le s)
  match h : lineBreak? (skipComment (skipGap s)) with
  | some rest =>
    have hlt := Nat.lt_of_lt_of_le (length_lt_of_lineBreak? h) hle
    .ok ⟨rest, Nat.le_of_lt hlt, .inl hlt⟩
  | none =>
    if (skipComment (skipGap s)).isEmpty then .ok ⟨[], Nat.zero_le _, .inr rfl⟩
    else .error .malformed

def statements (s : List Char) : Except Fault (List Statement) :=
  match s with
  | [] => .ok []
  | c :: cs =>
    match lineEnd (c :: cs) with
    | .ok rest => statements rest.val
    | .error _ =>
      match gapped statement (c :: cs) with
      | .error f => .error f
      | .ok (first, rest) =>
        match lineEnd rest.val with
        | .error f => .error f
        | .ok last => (statements last.val).map (first :: ·)
termination_by s.length
decreasing_by
  · rcases rest.property.2 with h | h
    · exact h
    · rw [h]
      exact Nat.zero_lt_succ _
  · exact Nat.lt_of_le_of_lt last.property.1 rest.property

/-- The statements of a document. A byte order mark in front is no part of it. -/
def statementsOf (document : String) : Except Fault (List Statement) :=
  match document.toList with
  | '\ufeff' :: rest => statements rest
  | s => statements s

end CloudScope.Settings
