import GroupWire.Policy
import GroupWire.PublicKey
import GroupWire.Url

/-! What is known of a group: its metadata, the roles it defines, its admins with their roles, its
members. Lists keep their order and their repeats. -/
namespace GroupWire

structure Metadata where
  name : Option Text
  about : Option Text
  picture : Option Url
  privacy : Privacy
  access : Access

namespace Metadata

def blank : Metadata := ⟨none, none, none, .anyone, .opened⟩

instance : BEq Metadata :=
  ⟨fun m n => m.name = n.name && m.about = n.about && m.picture == n.picture &&
    m.privacy = n.privacy && m.access = n.access⟩

end Metadata

structure Role where
  name : Text
  description : Option Text
  deriving DecidableEq

structure Admin where
  key : PublicKey
  roles : List Text
  deriving DecidableEq

structure Roles where
  items : List Role
  deriving DecidableEq

structure Admins where
  items : List Admin
  deriving DecidableEq

structure Members where
  items : List PublicKey
  deriving DecidableEq

end GroupWire
