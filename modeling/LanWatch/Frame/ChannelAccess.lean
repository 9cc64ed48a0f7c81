import LanWatch.Frame.Scan
import LanWatch.Text.Utf8

namespace LanWatch.ChannelAccess

/-!
# Channel Access searches

Control system clients broadcast the names of the process variables that they look for. A datagram
is a list of messages, each a header of sixteen bytes and a payload of the length that the header
declares. It normally opens with a version message and goes on with searches; any other command
means that the datagram is no search, and the rest of it is left alone.

* `Message` — a version or search message;
* `Ending` — how the list of messages ends;
* `Message.encode` — a message as it stands in a datagram;
* `messages` — the messages of a datagram, up to its end;
* `scan` — the names that they search for.
-/

/-- The length of a message header. -/
def headerLength : Nat := 16

/-- The command of a version message. -/
def versionCommand : UInt16 := 0

/-- The command of a search. -/
def searchCommand : UInt16 := 6

/-- The longest name that is kept, in bytes. -/
def maxName : Nat := 255

/-- A message with its payload. -/
inductive Message where
  | version (payload : Bytes)
  | search (payload : Bytes)
  deriving DecidableEq

namespace Message

/-- The payload of a message. -/
def payload : Message → Bytes
  | version p => p
  | search p => p

/-- The command of a message. -/
def command : Message → UInt16
  | version _ => versionCommand
  | search _ => searchCommand

/-- A 16-bit number, high byte first. -/
def be16Bytes (n : Nat) : Bytes :=
  [UInt8.ofNat (n / 256), UInt8.ofNat n]

/-- A message as it stands in a datagram: command, payload length, twelve more header bytes, and
    the payload. -/
def encode (m : Message) (parameters : Bytes) : Bytes :=
  be16Bytes m.command.toNat ++ be16Bytes m.payload.length ++ parameters ++ m.payload

end Message

/-- How a list of messages ends. -/
inductive Ending where
  /-- The datagram is over. -/
  | exhausted
  /-- A message with another command, whatever follows. -/
  | foreign
  /-- A message that is not all there. -/
  | cut (error : DecodeError)
  deriving DecidableEq

/-- The error of a list that ends in a cut message. -/
def Ending.error? : Ending → Option DecodeError
  | cut e => some e
  | _ => none

/-- The command and the payload length in a header. -/
def command : Bytes → UInt16 × Nat
  | c₁ :: c₀ :: l₁ :: l₀ :: _ => (be16 c₁ c₀, (be16 l₁ l₀).toNat)
  | _ => (0, 0)

/-- The next message, or none if it has another command. -/
def message (c : Cursor) : Except DecodeError (Option Message × Cursor) :=
  match c.take headerLength with
  | .error e => .error e
  | .ok (header, c) =>
    let (command, length) := command header
    if command = versionCommand ∨ command = searchCommand then
      match c.take length with
      | .error e => .error e
      | .ok (payload, c) =>
        .ok (some (if command = versionCommand then .version payload else .search payload), c)
    else .ok (none, c)

/-- Reading a message moves on by at least a header. -/
theorem remaining_of_message {c c' : Cursor} {m : Option Message} (h : message c = .ok (m, c')) :
    c'.remaining < c.remaining := by
  unfold message at h
  split at h
  · simp at h
  · rename_i header c₁ h₁
    have h₂ := Cursor.remaining_of_take h₁
    simp only [headerLength] at h₂
    simp only at h
    split at h
    · split at h
      · simp at h
      · rename_i payload c₂ h₃
        have := Cursor.remaining_of_take h₃
        simp only [Except.ok.injEq, Prod.mk.injEq] at h
        obtain ⟨-, rfl⟩ := h
        omega
    · simp only [Except.ok.injEq, Prod.mk.injEq] at h
      obtain ⟨-, rfl⟩ := h
      omega

/-- The messages up to the end of the list, and how it ends. -/
def messages (c : Cursor) : List Message × Ending :=
  if c.atEnd then ([], .exhausted)
  else match h : message c with
    | .error e => ([], .cut e)
    | .ok (none, _) => ([], .foreign)
    | .ok (some m, c') =>
      have : c'.remaining < c.remaining := remaining_of_message h
      let (ms, ending) := messages c'
      (m :: ms, ending)
termination_by c.remaining

/-- At the end of the body there are no more messages. -/
theorem messages_of_atEnd {c : Cursor} (h : c.atEnd = true) : messages c = ([], .exhausted) := by
  rw [messages, if_pos h]

/-- A read that fails ends the messages. -/
theorem messages_of_error {c : Cursor} {e : DecodeError} (h : ¬ c.atEnd = true)
    (hmessage : message c = .error e) : messages c = ([], .cut e) := by
  rw [messages, if_neg h]
  split <;> simp_all

/-- A message that is not known ends the messages. -/
theorem messages_of_foreign {c c' : Cursor} (h : ¬ c.atEnd = true)
    (hmessage : message c = .ok (none, c')) : messages c = ([], .foreign) := by
  rw [messages, if_neg h]
  split <;> simp_all

/-- A message is followed by those behind it. -/
theorem messages_of_message {c c' : Cursor} {m : Message} (h : ¬ c.atEnd = true)
    (hmessage : message c = .ok (some m, c')) :
    messages c = (m :: (messages c').1, (messages c').2) := by
  rw [messages, if_neg h]
  split <;> simp_all

/-- The name in the payload of a search: it ends at the first NUL, and is cut at its limit. -/
def name (payload : Bytes) : String :=
  Text.decodeLossy (payload.untilNul.take maxName)

/-- Takes the names of searches into a record, in order, while there is room. An empty name is no
    name. -/
def refine (ending : Ending) : List Message → Sighting → Scan
  | [], s => ⟨s, ending.error?, []⟩
  | .version _ :: ms, s => refine ending ms s
  | .search payload :: ms, s =>
    if name payload = "" then refine ending ms s
    else if s.hasRoom then refine ending ms (s.addPvName (name payload))
    else
      let scan := refine ending ms s
      { scan with notes := .namesFull s.mac :: scan.notes }

/-- Scans the body of a datagram. -/
def scan (body : Bytes) (s : Sighting) : Scan :=
  let (ms, ending) := messages (Cursor.start "epics-ca" body)
  refine ending ms s

end LanWatch.ChannelAccess
