/-!
Vectors as a reader sees them: a declared length and a checked access by position. Positions are
signed words and lengths unsigned ones, as wide as an address. A cursor walks a vector from position
zero up to the length that was declared when the walk began.
-/

namespace TableReaders.Vector

structure IndexError where
  index : Int64
  size : UInt64
  deriving DecidableEq, Repr

def IndexError.message (error : IndexError) : String :=
  "vector index " ++ toString error.index.toInt ++ " out of range for vector of length " ++
    toString error.size.toNat

def checkedSlot (index : Int64) (size : UInt64) : Except IndexError UInt64 :=
  if 0 ≤ index ∧ index.toUInt64 < size then .ok index.toUInt64 else .error ⟨index, size⟩

/-- A vector that can be read: how long it says it is, and what it answers at a position. -/
structure Reader (α : Type) where
  size : UInt64
  get : Int64 → Except IndexError α

variable {α : Type}

/-- The reader of a list of slots. An unset slot answers with the default of its type. -/
def Reader.ofSlots [Inhabited α] (slots : List (Option α)) : Reader α where
  size := slots.length.toUInt64
  get index := do
    let slot ← checkedSlot index slots.length.toUInt64
    return (slots[slot.toNat]?.join).getD default

def Reader.declaring (reader : Reader α) (size : UInt64) : Reader α :=
  { reader with size }

def Reader.isEmpty (reader : Reader α) : Bool :=
  reader.size == 0

structure Cursor where
  position : UInt64
  stop : UInt64
  deriving DecidableEq, Repr

def Reader.start (reader : Reader α) : Cursor :=
  ⟨0, reader.size⟩

def Cursor.remaining (cursor : Cursor) : UInt64 :=
  cursor.stop - cursor.position

def Cursor.sizeHint (cursor : Cursor) : UInt64 × Option UInt64 :=
  (cursor.remaining, some cursor.remaining)

/-- The item at the cursor and the cursor after it. At the end there is no item and the cursor
stays. -/
def Reader.next (reader : Reader α) (cursor : Cursor) : Option (Except IndexError α) × Cursor :=
  if cursor.stop ≤ cursor.position then (none, cursor)
  else (some (reader.get cursor.position.toInt64), { cursor with position := cursor.position + 1 })

def Reader.walk (reader : Reader α) : Nat → Cursor → List (Except IndexError α)
  | 0, _ => []
  | steps + 1, cursor =>
      match reader.next cursor with
      | (none, _) => []
      | (some answer, cursor) => answer :: reader.walk steps cursor

def Reader.answers (reader : Reader α) : List (Except IndexError α) :=
  reader.walk reader.size.toNat reader.start

def Reader.gather (reader : Reader α) : Nat → Cursor → Except IndexError (List α)
  | 0, _ => .ok []
  | steps + 1, cursor =>
      match reader.next cursor with
      | (none, _) => .ok []
      | (some (.error error), _) => .error error
      | (some (.ok item), cursor) => (item :: ·) <$> reader.gather steps cursor

def Reader.items (reader : Reader α) : Except IndexError (List α) :=
  reader.gather reader.size.toNat reader.start

end TableReaders.Vector
