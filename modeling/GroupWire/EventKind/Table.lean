import GroupWire.EventKind

/-! Tables of kind numbers in ascending order, searched by halving, and what the three tables of the
protocol say of a number. The moderation kinds have gaps, so a range check would not do. -/
namespace GroupWire

structure KindTable where
  codes : List Int
  deriving DecidableEq

namespace KindTable

/-- The first neighbours that do not ascend. -/
def descent? : List Int → Option (Int × Int)
  | a :: b :: r => if a < b then descent? (b :: r) else some (a, b)
  | _ => none

def ofCodes (codes : List Int) : Except (Int × Int) KindTable :=
  match descent? codes with
  | some pair => .error pair
  | none => .ok ⟨codes⟩

/-- The first place from `low` on, below `high`, whose code is not smaller. -/
def lowerBound (codes : List Int) (code : Int) (low high : Nat) : Nat :=
  if low < high then
    let middle := (low + high) / 2
    if codes.getD middle 0 < code then lowerBound codes code (middle + 1) high
    else lowerBound codes code low middle
  else low
termination_by high - low

/-- The greatest number that a kind can have. -/
def greatestCode : Nat := 65535

def has (t : KindTable) (code : Int) : Bool :=
  0 ≤ code && code ≤ greatestCode && t.codes[lowerBound t.codes code 0 t.codes.length]? = some code

def ofKinds (kinds : List EventKind) : KindTable := ⟨kinds.map fun k => (k.code : Int)⟩

open EventKind

def moderation : KindTable :=
  ofKinds [putUser, removeUser, editMetadata, deleteEvent, createGroup, deleteGroup, createInvite]

def metadata : KindTable := ofKinds [groupMetadata, groupAdmins, groupMembers, groupRoles]

def user : KindTable := ofKinds [joinRequest, leaveRequest]

/-- The three tables pass the check. -/
theorem ofCodes_tables : ∀ t ∈ [moderation, metadata, user], ofCodes t.codes = .ok t := by
  simp only [List.forall_mem_cons]
  exact ⟨rfl, rfl, rfl, List.forall_mem_nil _⟩

end KindTable

def isModeration (code : Int) : Bool := KindTable.moderation.has code

def isMetadata (code : Int) : Bool := KindTable.metadata.has code

def isUserRequest (code : Int) : Bool := KindTable.user.has code

def isGroupEvent (code : Int) : Bool := isModeration code || isMetadata code || isUserRequest code

end GroupWire
