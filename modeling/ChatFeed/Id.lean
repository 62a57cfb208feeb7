/-!
# Identifiers

Users, rooms and events are named by identifiers of one shape,
`<sigil><localpart>:<domain>`, with the sigil `@`, `!` or `$`. The first colon
of the text is the separator, so a local part holds none and a domain may.

## Main definitions

* `Id`: an identifier of one kind, by its two parts
* `Id.text`: its text
* `Id.ofParts`: the identifier whose text joins two given parts
* `Id.separator`: where its text is split
* `Id.parse`: the identifier with a given text

## Main results

* `Id.toList_text`: what the text consists of
* `Id.text_ofParts`: the text of joined parts
-/

namespace ChatFeed

/-- What an identifier names. -/
inductive IdKind where
  | user
  | room
  | event
deriving DecidableEq, Repr

/-- The character that opens every identifier of a kind. -/
def IdKind.sigil : IdKind → Char
  | .user => '@'
  | .room => '!'
  | .event => '$'

/-- An identifier. Only the domain may hold a colon; either part may be empty. -/
structure Id (kind : IdKind) where
  localpart : String
  domain : String
  /-- The first colon of the text is the separator. -/
  colon_notMem : ':' ∉ localpart.toList
deriving DecidableEq

/-- Names a user, as `@alice:example.org` does. -/
abbrev UserId := Id .user

/-- Names a room, as `!lobby:example.org` does. -/
abbrev RoomId := Id .room

/-- Names an event, as `$k3j2:example.org` does. -/
abbrev EventId := Id .event

/-- An identifier of any kind, or any other text, by which a log tells its recipients apart. -/
abbrev Key := String

/-- Why a text is no identifier of the kind wanted. -/
inductive IdError where
  | empty
  /-- The text opens with another character than the sigil `expected`. -/
  | sigil (text : String) (expected : Char)
  /-- There is no colon, or nothing before it, or nothing after it. -/
  | missingDomain (text : String)
deriving DecidableEq, Repr

/-- The wording of the error. -/
def IdError.message : IdError → String
  | .empty => "identifier is empty"
  | .sigil text expected => s!"identifier '{text}' must start with '{expected}'"
  | .missingDomain text => s!"identifier '{text}' must have the form <localpart>:<domain>"

namespace Id

variable {kind : IdKind}

/-- The identifier as it is written. -/
def text (id : Id kind) : String :=
  String.ofList (kind.sigil :: (id.localpart.toList ++ ':' :: id.domain.toList))

instance : ToString (Id kind) := ⟨text⟩

/-- Identifiers are ordered as their texts. -/
instance : LT (Id kind) := ⟨fun a b => a.text < b.text⟩

instance : DecidableLT (Id kind) := fun a b => inferInstanceAs (Decidable (a.text < b.text))

theorem toList_text (id : Id kind) :
    id.text.toList = kind.sigil :: (id.localpart.toList ++ ':' :: id.domain.toList) := by
  simp [text]

/-! ### Splitting at the separator -/

/-- The part of `cs` before its first colon. -/
def beforeColon (cs : List Char) : List Char :=
  cs.takeWhile (· ≠ ':')

/-- The part of `cs` after its first colon, if there is one. -/
def afterColon? (cs : List Char) : Option (List Char) :=
  match cs.dropWhile (· ≠ ':') with
  | [] => none
  | _ :: rest => some rest

theorem colon_notMem_beforeColon (cs : List Char) :
    ':' ∉ (String.ofList (beforeColon cs)).toList := by
  induction cs with
  | nil => simp [beforeColon]
  | cons c rest ih =>
    by_cases colon : c = ':'
    · simp [beforeColon, colon]
    · simpa [beforeColon, colon, Ne.symm colon] using ih

theorem beforeColon_append_afterColon {cs rest : List Char} (found : afterColon? cs = some rest) :
    beforeColon cs ++ ':' :: rest = cs := by
  induction cs with
  | nil => simp [afterColon?] at found
  | cons c tail ih =>
    by_cases colon : c = ':'
    · subst colon
      simp_all [afterColon?, beforeColon]
    · have deeper : afterColon? tail = some rest := by simpa [afterColon?, colon] using found
      simpa [beforeColon, colon] using ih deeper

theorem beforeColon_of_afterColon_eq_none {cs : List Char} (missing : afterColon? cs = none) :
    beforeColon cs = cs := by
  induction cs with
  | nil => rfl
  | cons c tail ih =>
    by_cases colon : c = ':'
    · simp [afterColon?, colon] at missing
    · have deeper : afterColon? tail = none := by simpa [afterColon?, colon] using missing
      simpa [beforeColon, colon] using ih deeper

/-! ### Building and parsing -/

/-- The identifier whose text is the sigil, `localpart`, a colon and `domain`. A colon inside
`localpart` becomes the separator. -/
def ofParts (kind : IdKind) (localpart domain : String) : Id kind where
  localpart := String.ofList (beforeColon localpart.toList)
  domain :=
    match afterColon? localpart.toList with
    | none => domain
    | some rest => String.ofList (rest ++ ':' :: domain.toList)
  colon_notMem := colon_notMem_beforeColon _

/-- The text of joined parts is the parts, joined. -/
theorem text_ofParts (localpart domain : String) :
    (ofParts kind localpart domain).text =
      String.ofList (kind.sigil :: (localpart.toList ++ ':' :: domain.toList)) := by
  apply String.toList_inj.mp
  cases found : afterColon? localpart.toList with
  | none => simp [toList_text, ofParts, found, beforeColon_of_afterColon_eq_none found]
  | some rest =>
    rw [toList_text, String.toList_ofList, ← beforeColon_append_afterColon found]
    simp [ofParts, found]

/-- Where the separator of an identifier stands: at the first colon of its text, counted in
bytes. -/
def separator (id : Id kind) : Nat :=
  (String.ofList (beforeColon id.text.toList)).utf8ByteSize

/-- The identifier with text `s`. Both of its parts must be non-empty. -/
def parse (kind : IdKind) (s : String) : Except IdError (Id kind) :=
  match s.toList with
  | [] => .error .empty
  | c :: rest =>
    if c ≠ kind.sigil then .error (.sigil s kind.sigil)
    else
      match afterColon? rest with
      | none => .error (.missingDomain s)
      | some domain =>
        if (beforeColon rest).isEmpty || domain.isEmpty then .error (.missingDomain s)
        else .ok ⟨String.ofList (beforeColon rest), String.ofList domain,
          colon_notMem_beforeColon rest⟩

/-- The identifier with text `s`, if there is one. -/
def parse? (kind : IdKind) (s : String) : Option (Id kind) :=
  (parse kind s).toOption

end Id

end ChatFeed
