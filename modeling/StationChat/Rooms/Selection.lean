import Mathlib.Data.List.Nodup
import StationChat.Rooms.Reload

/-! Which stored rooms a load selects, and which of them begin with its base address. -/
namespace StationChat
open Lib Lib.Action

section Selection
variable {baseAddress : U16String} {row : RoomRow} {s t : Server}

/-- Every row has its own id: the primary key. -/
def Database.DistinctIds (db : Database) : Prop := ∀ row ∈ db.room, ∀ row' ∈ db.room, row.id = row'.id → row = row'

namespace LoadsPrefix

end LoadsPrefix

end Selection
end StationChat
