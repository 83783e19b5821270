import StationChat.Protocol.Serialization

/-! What a packet looks like: the fields of every request in the order they are read, and that a packet is taken for a
request exactly when it starts with them. -/
namespace StationChat
open Lib Lib.Decoder Wire

/-- A field of a request. A flag is set by any value that is not zero. -/
inductive Field where
  | uint16 (value : UInt16)
  | uint32 (value : UInt32)
  | int32 (value : Int32)
  | flag (width : Nat) (value : Bool)
  | text (value : U16String)
  deriving DecidableEq, Repr

/-- The bytes of a field. -/
def Field.Lies : Field → List UInt8 → Prop
  | uint16 value, bytes => bytes = writeUInt16 value
  | uint32 value, bytes => bytes = writeUInt32 value
  | int32 value, bytes => bytes = writeUInt32 value.toUInt32
  | flag width value, bytes => bytes.length = width ∧ value = (littleEndian bytes != 0)
  | text value, bytes => ShortString value ∧ bytes = writeU16String value

/-- A field that has bytes: a text whose length fits 32 bits, and a flag of one byte at least. -/
def Field.Short : Field → Prop
  | flag width _ => 0 < width
  | text value => ShortString value
  | _ => True

/-- The bytes of a field, where a set flag is one. -/
def Field.write : Field → List UInt8
  | uint16 value => writeUInt16 value
  | uint32 value => writeUInt32 value
  | int32 value => writeUInt32 value.toUInt32
  | flag width value => integerBytes width (if value then 1 else 0)
  | text value => writeU16String value

section Fields

def ReqLoginAvatar.fields (r : ReqLoginAvatar) : List Field :=
  [.uint32 r.track, .uint32 r.userId, .text r.name, .text r.address, .text r.loginLocation, .int32 r.loginPriority,
    .int32 r.loginAttributes]

def ReqLogoutAvatar.fields (r : ReqLogoutAvatar) : List Field :=
  [.uint32 r.track, .uint32 r.avatarId]

def ReqCreateRoom.fields (r : ReqCreateRoom) : List Field :=
  [.uint32 r.track, .uint32 r.creatorId, .text r.roomName, .text r.roomTopic, .text r.roomPassword,
    .uint32 r.roomAttributes, .uint32 r.roomMaxSize, .text r.roomAddress, .text r.srcAddress]

def ReqRoomByAvatar.fields (r : ReqRoomByAvatar) : List Field :=
  [.uint32 r.track, .uint32 r.srcAvatarId, .text r.roomAddress, .text r.srcAddress]

def ReqSendInstantMessage.fields (r : ReqSendInstantMessage) : List Field :=
  [.uint32 r.track, .uint32 r.srcAvatarId, .text r.destName, .text r.destAddress, .text r.message, .text r.oob,
    .text r.srcAddress]

def ReqSendRoomMessage.fields (r : ReqSendRoomMessage) : List Field :=
  [.uint32 r.track, .uint32 r.srcAvatarId, .text r.destRoomAddress, .text r.message, .text r.oob,
    .text r.srcAddress]

def ReqAddFriend.fields (r : ReqAddFriend) : List Field :=
  [.uint32 r.track, .uint32 r.srcAvatarId, .text r.destName, .text r.destAddress, .text r.comment,
    .flag 1 r.confirm, .text r.srcAddress]

def ReqContact.fields (r : ReqContact) : List Field :=
  [.uint32 r.track, .uint32 r.srcAvatarId, .text r.destName, .text r.destAddress, .text r.srcAddress]

def ReqContactStatus.fields (r : ReqContactStatus) : List Field :=
  [.uint32 r.track, .uint32 r.srcAvatarId, .text r.srcAddress]

def PassiveCreate.fields (r : PassiveCreate) : List Field :=
  [.text r.paramRoomTopic, .uint32 r.paramRoomAttributes, .uint32 r.paramRoomMaxSize]

def ReqEnterRoom.fields (r : ReqEnterRoom) : List Field :=
  [.uint32 r.track, .uint32 r.srcAvatarId, .text r.roomAddress, .text r.roomPassword,
    .flag 1 r.passiveCreate.isSome] ++ r.passiveCreate.elim [] PassiveCreate.fields ++
    [.flag 1 r.requestingEntry, .text r.srcAddress]

def ReqRoomRole.fields (r : ReqRoomRole) : List Field :=
  [.uint32 r.track, .uint32 r.srcAvatarId, .text r.destAvatarName, .text r.destAvatarAddress,
    .text r.destRoomAddress, .text r.srcAddress]

def ReqGetRoom.fields (r : ReqGetRoom) : List Field :=
  [.uint32 r.track, .text r.roomAddress]

def ReqGetRoomSummaries.fields (r : ReqGetRoomSummaries) : List Field :=
  [.uint32 r.track, .text r.startNodeAddress, .text r.roomFilter]

/-- The flag before the sender says which of the two it is. -/
def ReqSendPersistentMessage.fields (r : ReqSendPersistentMessage) : List Field :=
  [.uint32 r.track, .flag 2 r.sender.isLeft] ++ r.sender.elim (fun id => [.uint32 id]) (fun name => [.text name]) ++
    [.text r.destName, .text r.destAddress, .text r.subject, .text r.msg, .text r.oob, .text r.category,
      .flag 1 r.enforceInboxLimit, .uint32 r.categoryLimit]

def ReqGetPersistentHeaders.fields (r : ReqGetPersistentHeaders) : List Field :=
  [.uint32 r.track, .uint32 r.avatarId, .text r.category]

def ReqGetPersistentMessage.fields (r : ReqGetPersistentMessage) : List Field :=
  [.uint32 r.track, .uint32 r.srcAvatarId, .uint32 r.messageId]

def ReqUpdatePersistentMessage.fields (r : ReqUpdatePersistentMessage) : List Field :=
  [.uint32 r.track, .uint32 r.srcAvatarId, .uint32 r.messageId, .uint32 r.status]

def ReqUpdatePersistentMessages.fields (r : ReqUpdatePersistentMessages) : List Field :=
  [.uint32 r.track, .uint32 r.srcAvatarId, .uint32 r.currentStatus, .uint32 r.newStatus, .text r.category]

def ReqFailoverReLoginAvatar.fields (r : ReqFailoverReLoginAvatar) : List Field :=
  [.uint32 r.track, .uint32 r.avatarId, .uint32 r.userId, .text r.name, .text r.address, .text r.loginLocation,
    .int32 r.loginPriority, .uint32 r.attributes]

def ReqSetApiVersion.fields (r : ReqSetApiVersion) : List Field :=
  [.uint32 r.track, .uint32 r.version]

def ReqSetAvatarAttributes.fields (r : ReqSetAvatarAttributes) : List Field :=
  [.uint32 r.track, .uint32 r.avatarId, .uint32 r.avatarAttributes, .uint32 r.persistent, .text r.srcAddress]

def ReqGetAnyAvatar.fields (r : ReqGetAnyAvatar) : List Field :=
  [.uint32 r.track, .text r.name, .text r.address]

namespace Request

/-- The fields of a request, from its track number on. -/
def fields : Request → List Field
  | loginAvatar r => r.fields | logoutAvatar r => r.fields | createRoom r => r.fields | destroyRoom r => r.fields
  | sendInstantMessage r => r.fields | sendRoomMessage r => r.fields | addFriend r => r.fields
  | removeFriend r => r.fields | friendStatus r => r.fields | addIgnore r => r.fields | removeIgnore r => r.fields
  | enterRoom r => r.fields | leaveRoom r => r.fields | addModerator r => r.fields | removeModerator r => r.fields
  | addBan r => r.fields | removeBan r => r.fields | addInvite r => r.fields | removeInvite r => r.fields
  | kickAvatar r => r.fields | getRoom r => r.fields | getRoomSummaries r => r.fields
  | sendPersistentMessage r => r.fields | getPersistentHeaders r => r.fields | getPersistentMessage r => r.fields
  | updatePersistentMessage r => r.fields | updatePersistentMessages r => r.fields | ignoreStatus r => r.fields
  | failoverReLoginAvatar r => r.fields | setApiVersion r => r.fields | setAvatarAttributes r => r.fields
  | getAnyAvatar r => r.fields

/-- The fields of a packet: the type code, and those of the request. -/
def packet (request : Request) : List Field := .uint16 request.type.code :: request.fields

def Short (request : Request) : Prop := ∀ field ∈ request.fields, field.Short

def write (request : Request) : List UInt8 := request.packet.flatMap Field.write

end Request
end Fields

section Reading
variable {β : Type} {seen more : List Field} {fields : β → List Field} {b : β}

theorem integerBytes_littleEndian (bytes : List UInt8) : integerBytes bytes.length (littleEndian bytes) = bytes := by
  induction bytes with
  | nil => rfl
  | cons byte bytes ih =>
    have hbyte := byte.toNat_lt
    have hdiv : (byte.toNat + 256 * littleEndian bytes) / 256 = littleEndian bytes := by omega
    have hmod : UInt8.ofNat (byte.toNat + 256 * littleEndian bytes) = byte := by
      apply UInt8.toNat_inj.mp
      rw [UInt8.toNat_ofNat']
      omega
    rw [List.length_cons, littleEndian, integerBytes, hmod, hdiv, ih]

theorem littleEndian_lt (bytes : List UInt8) : littleEndian bytes < 256 ^ bytes.length := by
  induction bytes with
  | nil => decide
  | cons byte bytes ih =>
    have hbyte := byte.toNat_lt
    rw [littleEndian, List.length_cons, Nat.pow_succ]
    omega

theorem readInteger_eq_some {width n : Nat} {bytes rest : List UInt8} :
    (readInteger width).parse bytes = some (n, rest) ↔
      ∃ part, (part.length = width ∧ littleEndian part = n) ∧ bytes = part ++ rest := by
  rw [readInteger, parse]
  split
  · rename_i hle
    rw [parse, Option.some.injEq, Prod.mk.injEq]
    constructor
    · rintro ⟨rfl, rfl⟩
      exact ⟨bytes.take width, ⟨List.length_take_of_le hle, rfl⟩, (List.take_append_drop width bytes).symm⟩
    · rintro ⟨part, ⟨rfl, rfl⟩, rfl⟩
      rw [List.take_left, List.drop_left]
      exact ⟨rfl, rfl⟩
  · rename_i hlt
    refine iff_of_false (by simp) ?_
    rintro ⟨part, ⟨rfl, _⟩, rfl⟩
    exact hlt (by rw [List.length_append]; omega)

variable {bytes rest : List UInt8}

theorem writeUInt16_littleEndian (h : bytes.length = 2) : writeUInt16 (UInt16.ofNat (littleEndian bytes)) = bytes := by
  have hlt : littleEndian bytes < 2 ^ 16 := by simpa [h] using littleEndian_lt bytes
  rw [writeUInt16, UInt16.toNat_ofNat_of_lt' hlt, ← h, integerBytes_littleEndian]

theorem writeUInt32_littleEndian (h : bytes.length = 4) : writeUInt32 (UInt32.ofNat (littleEndian bytes)) = bytes := by
  have hlt : littleEndian bytes < 2 ^ 32 := by simpa [h] using littleEndian_lt bytes
  rw [writeUInt32, UInt32.toNat_ofNat_of_lt' hlt, ← h, integerBytes_littleEndian]

theorem readUInt16_eq_some {value : UInt16} :
    readUInt16.parse bytes = some (value, rest) ↔ bytes = writeUInt16 value ++ rest := by
  constructor
  · intro hparse
    obtain ⟨n, behind, hread, hdone⟩ := (parse_bind_eq_some _ _).mp hparse
    obtain ⟨part, ⟨hlength, rfl⟩, rfl⟩ := readInteger_eq_some.mp hread
    obtain ⟨rfl, rfl⟩ := Prod.mk.inj (Option.some.inj hdone)
    rw [writeUInt16_littleEndian hlength]
  · rintro rfl
    exact undoes_readUInt16 value rest

theorem readUInt32_eq_some {value : UInt32} :
    readUInt32.parse bytes = some (value, rest) ↔ bytes = writeUInt32 value ++ rest := by
  constructor
  · intro hparse
    obtain ⟨n, behind, hread, hdone⟩ := (parse_bind_eq_some _ _).mp hparse
    obtain ⟨part, ⟨hlength, rfl⟩, rfl⟩ := readInteger_eq_some.mp hread
    obtain ⟨rfl, rfl⟩ := Prod.mk.inj (Option.some.inj hdone)
    rw [writeUInt32_littleEndian hlength]
  · rintro rfl
    exact undoes_readUInt32 value rest

theorem reads_uint32 : Reads Field.Lies readUInt32 .uint32 where
  takes _ _ _ h := ⟨_, rfl, readUInt32_eq_some.mp h⟩
  finds value _ _ h := ⟨value, rfl, readUInt32_eq_some.mpr (by rw [(h : _ = _)])⟩

theorem reads_int32 : Reads Field.Lies readInt32 .int32 where
  takes bytes value rest h := by
    obtain ⟨n, behind, hread, hdone⟩ := (parse_bind_eq_some _ _).mp h
    obtain ⟨rfl, rfl⟩ := Prod.mk.inj (Option.some.inj hdone)
    exact ⟨_, congrArg writeUInt32 (UInt32.toUInt32_toInt32 n).symm, readUInt32_eq_some.mp hread⟩
  finds value part rest h := by
    refine ⟨value, rfl, (parse_bind_eq_some _ _).mpr ⟨value.toUInt32, rest, ?_, ?_⟩⟩
    · rw [readUInt32_eq_some, (h : _ = _)]
    · rw [Int32.toInt32_toUInt32]
      rfl

/-- A flag of one byte. -/
theorem reads_flag : Reads Field.Lies readBool (.flag 1) where
  takes bytes value rest h := by
    obtain ⟨n, behind, hread, hdone⟩ := (parse_bind_eq_some _ _).mp h
    obtain ⟨part, ⟨hlength, rfl⟩, rfl⟩ := readInteger_eq_some.mp hread
    obtain ⟨rfl, rfl⟩ := Prod.mk.inj (Option.some.inj hdone)
    exact ⟨part, ⟨hlength, rfl⟩, rfl⟩
  finds value part rest := by
    rintro ⟨hlength, rfl⟩
    exact ⟨_, rfl, (parse_bind_eq_some _ _).mpr ⟨littleEndian part, rest,
      readInteger_eq_some.mpr ⟨part, ⟨hlength, rfl⟩, rfl⟩, rfl⟩⟩

theorem ofNat_bne_zero {n : Nat} (h : n < 2 ^ 16) : (UInt16.ofNat n != 0) = (n != 0) := by
  rw [Bool.eq_iff_iff, bne_iff_ne, bne_iff_ne, not_iff_not, ← UInt16.toNat_inj, UInt16.toNat_ofNat_of_lt' h]
  rfl

/-- A flag of two bytes, which is read as a number. -/
theorem reads_flag2 : Reads Field.Lies readUInt16 fun value => .flag 2 (value != 0) where
  takes bytes value rest h := by
    obtain ⟨n, behind, hread, hdone⟩ := (parse_bind_eq_some _ _).mp h
    obtain ⟨part, ⟨hlength, rfl⟩, rfl⟩ := readInteger_eq_some.mp hread
    obtain ⟨rfl, rfl⟩ := Prod.mk.inj (Option.some.inj hdone)
    exact ⟨part, ⟨hlength, ofNat_bne_zero (by simpa [hlength] using littleEndian_lt part)⟩, rfl⟩
  finds value part rest := by
    rintro ⟨hlength, hvalue⟩
    refine ⟨UInt16.ofNat (littleEndian part), ?_, (parse_bind_eq_some _ _).mpr ⟨littleEndian part, rest,
      readInteger_eq_some.mpr ⟨part, ⟨hlength, rfl⟩, rfl⟩, rfl⟩⟩
    rw [hvalue, ofNat_bne_zero (by simpa [hlength] using littleEndian_lt part)]

/-- The units of a string, written again. -/
theorem flatMap_pieces {count : Nat} (h : 2 * count ≤ bytes.length) :
    ((pieces 2 count bytes).map fun unit => UInt16.ofNat (littleEndian unit)).flatMap writeUInt16 =
      bytes.take (2 * count) := by
  induction count generalizing bytes with
  | zero => rfl
  | succ count ih =>
    have hfirst : (bytes.take 2).length = 2 := List.length_take_of_le (by omega)
    have hmore : 2 * count ≤ (bytes.drop 2).length := by
      rw [List.length_drop]
      omega
    rw [pieces, List.map_cons, List.flatMap_cons, ih hmore, writeUInt16_littleEndian hfirst,
      show 2 * (count + 1) = 2 + 2 * count by omega, List.take_add]

theorem length_pieces (width count : Nat) (bytes : List UInt8) : (pieces width count bytes).length = count := by
  induction count generalizing bytes with
  | zero => rfl
  | succ count ih => rw [pieces, List.length_cons, ih]

theorem reads_text : Reads Field.Lies readU16String .text where
  takes bytes value rest h := by
    obtain ⟨length, behind, hread, hunits⟩ := (parse_bind_eq_some _ _).mp h
    obtain rfl := readUInt32_eq_some.mp hread
    rw [parse] at hunits
    split at hunits
    · rename_i hle
      obtain ⟨rfl, rfl⟩ := Prod.mk.inj (Option.some.inj hunits)
      have hcount : ((pieces 2 length.toNat behind).map fun unit => UInt16.ofNat (littleEndian unit)).length =
          length.toNat := by rw [List.length_map, length_pieces]
      have hshort : ShortString ((pieces 2 length.toNat behind).map fun unit => UInt16.ofNat (littleEndian unit)) := by
        rw [ShortString, hcount]
        exact length.toNat_lt
      refine ⟨_, ⟨hshort, rfl⟩, ?_⟩
      rw [writeU16String_eq hshort, writeAll, writeSize, hcount, UInt32.ofNat_toNat, flatMap_pieces hle,
        List.append_assoc, List.take_append_drop]
    · exact absurd hunits (by simp)
  finds value part rest := by
    rintro ⟨hshort, rfl⟩
    exact ⟨value, rfl, undoes_readU16String hshort rest⟩

end Reading

section Requests

theorem completes_readEnterRoom : ReqEnterRoom.read.Completes Field.Lies [] ReqEnterRoom.fields := by
  refine reads_uint32.completes fun _ => reads_uint32.completes fun _ => ?_
  refine reads_text.completes fun _ => reads_text.completes fun _ => reads_flag.completes fun passive => ?_
  cases passive with
  | false => exact reads_flag.completes fun _ => reads_text.completes fun _ => completes_done rfl
  | true =>
    simp only [if_true, PassiveCreate.read, map_bind, bind_assoc, map_pure, pure_bind]
    refine reads_text.completes fun _ => reads_uint32.completes fun _ => reads_uint32.completes fun _ => ?_
    exact reads_flag.completes fun _ => reads_text.completes fun _ => completes_done rfl

theorem completes_readSendPersistentMessage :
    ReqSendPersistentMessage.read.Completes Field.Lies [] ReqSendPersistentMessage.fields := by
  refine reads_uint32.completes fun _ => reads_flag2.completes fun presence => ?_
  by_cases hpresence : presence = 0
  · subst hpresence
    simp only [ne_eq, not_true_eq_false, if_false, bind_map_left]
    refine reads_text.completes fun _ => ?_
    refine reads_text.completes fun _ => reads_text.completes fun _ => reads_text.completes fun _ => ?_
    refine reads_text.completes fun _ => reads_text.completes fun _ => reads_text.completes fun _ => ?_
    exact reads_flag.completes fun _ => reads_uint32.completes fun _ => completes_done rfl
  · rw [bne_iff_ne.mpr hpresence]
    simp only [ne_eq, hpresence, not_false_eq_true, if_true, bind_map_left]
    refine reads_uint32.completes fun _ => ?_
    refine reads_text.completes fun _ => reads_text.completes fun _ => reads_text.completes fun _ => ?_
    refine reads_text.completes fun _ => reads_text.completes fun _ => reads_text.completes fun _ => ?_
    exact reads_flag.completes fun _ => reads_uint32.completes fun _ => completes_done rfl

/-- Each request is read field by field. -/
theorem completes_read (type : ChatRequestType) : type.read.Completes Field.Lies [] Request.fields := by
  cases type
  case enterRoom => exact completes_map completes_readEnterRoom
  case sendPersistentMessage => exact completes_map completes_readSendPersistentMessage
  all_goals
    apply completes_map
    refine reads_uint32.completes fun _ => ?_
    repeat with_reducible first
      | refine reads_uint32.completes fun _ => ?_
      | refine reads_text.completes fun _ => ?_
      | refine reads_int32.completes fun _ => ?_
      | refine reads_flag.completes fun _ => ?_
    exact completes_done rfl

variable {β : Type} {more : List Field} {b : β}

theorem accepts_uint32 {f : UInt32 → Decoder β} {value : UInt32} (h : (f value).Accepts Field.Lies more b) :
    (readUInt32 >>= f).Accepts Field.Lies (.uint32 value :: more) b :=
  reads_uint32.accepts fun _ hvalue => Field.uint32.inj hvalue ▸ h

theorem accepts_int32 {f : Int32 → Decoder β} {value : Int32} (h : (f value).Accepts Field.Lies more b) :
    (readInt32 >>= f).Accepts Field.Lies (.int32 value :: more) b :=
  reads_int32.accepts fun _ hvalue => Field.int32.inj hvalue ▸ h

theorem accepts_flag {f : Bool → Decoder β} {value : Bool} (h : (f value).Accepts Field.Lies more b) :
    (readBool >>= f).Accepts Field.Lies (.flag 1 value :: more) b :=
  reads_flag.accepts fun _ hvalue => (Field.flag.inj hvalue).2 ▸ h

theorem accepts_text {f : U16String → Decoder β} {value : U16String} (h : (f value).Accepts Field.Lies more b) :
    (readU16String >>= f).Accepts Field.Lies (.text value :: more) b :=
  reads_text.accepts fun _ hvalue => Field.text.inj hvalue ▸ h

theorem accepts_readEnterRoom (r : ReqEnterRoom) : ReqEnterRoom.read.Accepts Field.Lies r.fields r := by
  obtain ⟨track, srcAvatarId, roomAddress, roomPassword, passive, requestingEntry, srcAddress⟩ := r
  refine accepts_uint32 <| accepts_uint32 <| accepts_text <| accepts_text <| accepts_flag ?_
  cases passive with
  | none => exact accepts_flag <| accepts_text accepts_done
  | some passive =>
    simp only [Option.isSome_some, if_true, PassiveCreate.read, map_bind, bind_assoc, map_pure, pure_bind]
    exact accepts_text <| accepts_uint32 <| accepts_uint32 <| accepts_flag <| accepts_text accepts_done

theorem accepts_readSendPersistentMessage (r : ReqSendPersistentMessage) :
    ReqSendPersistentMessage.read.Accepts Field.Lies r.fields r := by
  obtain ⟨track, sender, destName, destAddress, subject, msg, oob, category, enforceInboxLimit, categoryLimit⟩ := r
  cases sender with
  | inl id =>
    refine accepts_uint32 <| reads_flag2.accepts (a := 1) fun presence hpresence => ?_
    have hne : presence ≠ 0 := bne_iff_ne.mp (Field.flag.inj hpresence).2
    simp only [ne_eq, hne, not_false_eq_true, if_true, bind_map_left]
    exact accepts_uint32 <| accepts_text <| accepts_text <| accepts_text <| accepts_text <| accepts_text <|
      accepts_text <| accepts_flag <| accepts_uint32 accepts_done
  | inr name =>
    refine accepts_uint32 <| reads_flag2.accepts (a := 0) fun presence hpresence => ?_
    have heq : presence = 0 := by simpa using hpresence
    simp only [ne_eq, heq, not_true_eq_false, if_false, bind_map_left]
    exact accepts_text <| accepts_text <| accepts_text <| accepts_text <| accepts_text <| accepts_text <|
      accepts_text <| accepts_flag <| accepts_uint32 accepts_done

/-- Wherever the fields of a request are, they are read as this request. -/
theorem accepts_read (request : Request) : request.type.read.Accepts Field.Lies request.fields request := by
  cases request
  case enterRoom r => exact accepts_map (accepts_readEnterRoom r)
  case sendPersistentMessage r => exact accepts_map (accepts_readSendPersistentMessage r)
  all_goals
    apply accepts_map
    refine accepts_uint32 ?_
    repeat with_reducible first
      | refine accepts_uint32 ?_
      | refine accepts_text ?_
      | refine accepts_int32 ?_
      | refine accepts_flag ?_
    exact accepts_done

end Requests

section Packets
variable {bytes rest : List UInt8} {request : Request}

theorem always_type (type : ChatRequestType) : type.read.Always fun request => request.type = type := by
  cases type <;> exact always_map fun _ _ => rfl

theorem type_of_parse {type : ChatRequestType} (h : type.read.parse bytes = some (request, rest)) :
    request.type = type := by
  obtain ⟨_, _, hrun, -⟩ := run_of_parse (fun _ => 0) h 0 0
  have htype := always_type type (fun _ => 0) ⟨⟨bytes, true⟩, 0, 0⟩
  rwa [hrun] at htype

theorem code_of_ofCode {code : UInt16} {type : ChatRequestType} (h : ChatRequestType.ofCode code = some type) :
    type.code = code := by
  simpa using List.find?_some h

/-- The strict meaning of what `OnIncoming` reads. -/
theorem readPacket_eq_some : readPacket.parse bytes = some (some request, rest) ↔
    ∃ front, Laid Field.Lies request.packet front ∧ bytes = front ++ rest := by
  constructor
  · intro hparse
    obtain ⟨code, behind, hcode, hread⟩ := (parse_bind_eq_some _ _).mp hparse
    obtain rfl := readUInt16_eq_some.mp hcode
    cases htype : ChatRequestType.ofCode code with
    | none =>
      rw [htype] at hread
      exact absurd (Prod.mk.inj (Option.some.inj hread)).1 (by simp)
    | some type =>
      rw [htype] at hread
      obtain ⟨request', htyped, hsome⟩ := (parse_map_eq_some _ _).mp hread
      obtain rfl := Option.some.inj hsome
      obtain ⟨more, front, hfields, hlaid, rfl⟩ := completes_read type _ _ _ htyped
      rw [List.nil_append] at hfields
      refine ⟨writeUInt16 code ++ front, laid_cons.mpr ⟨_, front, ?_, hfields ▸ hlaid, rfl⟩, ?_⟩
      · rw [type_of_parse htyped, code_of_ofCode htype]
        rfl
      · rw [List.append_assoc]
  · rintro ⟨front, hlaid, rfl⟩
    obtain ⟨_, more, rfl, hmore, rfl⟩ := laid_cons.mp hlaid
    refine (parse_bind_eq_some _ _).mpr ⟨request.type.code, more ++ rest, ?_, ?_⟩
    · rw [readUInt16_eq_some, List.append_assoc]
    · rw [ChatRequestType.ofCode_code]
      exact (parse_map_eq_some _ _).mpr ⟨request, accepts_read request more rest hmore, rfl⟩

/-- Whatever memory holds, a packet is taken for a request with no read coming up short if and only if it starts with
the type code and the fields of this request. -/
theorem packets_are_laid_out (memory : Nat → UInt8) (bytes : List UInt8) (request : Request) :
    ((decodePacket memory bytes).1 = some request ∧ (decodePacket memory bytes).2.stream.good = true) ↔
      ∃ front, Laid Field.Lies request.packet front ∧ front <+: bytes := by
  constructor
  · rintro ⟨hrequest, hgood⟩
    obtain ⟨⟨result, rest⟩, hparse⟩ := Option.isSome_iff_exists.mp ((run_good_iff readPacket).mp hgood)
    obtain ⟨_, _, hrun, -⟩ := run_of_parse memory hparse 0 0
    rw [decodePacket, start, hrun] at hrequest
    obtain rfl : result = some request := hrequest
    obtain ⟨front, hlaid, rfl⟩ := readPacket_eq_some.mp hparse
    exact ⟨front, hlaid, List.prefix_append front rest⟩
  · rintro ⟨front, hlaid, rest, rfl⟩
    obtain ⟨_, _, hrun, -⟩ := run_of_parse memory (readPacket_eq_some.mpr ⟨front, hlaid, rfl⟩) 0 0
    rw [decodePacket, start, hrun]
    exact ⟨rfl, rfl⟩

theorem lies_write {field : Field} (h : field.Short) : field.Lies field.write := by
  cases field with
  | uint16 | uint32 | int32 => rfl
  | text value => exact ⟨h, rfl⟩
  | flag width value =>
    have hpow : 1 < 256 ^ width := Nat.one_lt_pow (Nat.ne_of_gt h) (by decide)
    refine ⟨length_integerBytes width _, ?_⟩
    have hsmall : (if value then 1 else 0) < 256 ^ width := lt_of_le_of_lt (by split <;> decide) hpow
    rw [Field.write, littleEndian_integerBytes hsmall]
    cases value <;> rfl

theorem laid_write {fields : List Field} (h : ∀ field ∈ fields, field.Short) :
    Laid Field.Lies fields (fields.flatMap Field.write) := by
  induction fields with
  | nil => exact laid_nil.mpr rfl
  | cons field fields ih =>
    obtain ⟨hfield, hfields⟩ := List.forall_mem_cons.mp h
    exact laid_cons.mpr ⟨field.write, _, lies_write hfield, ih hfields, List.flatMap_cons⟩

/-- A request is read back from its packet. -/
theorem decodePacket_write (memory : Nat → UInt8) (h : request.Short) (rest : List UInt8) :
    (decodePacket memory (request.write ++ rest)).1 = some request :=
  have hlaid : Laid Field.Lies request.packet request.write := laid_write (List.forall_mem_cons.mpr ⟨trivial, h⟩)
  ((packets_are_laid_out memory _ request).mpr ⟨request.write, hlaid, List.prefix_append _ rest⟩).1

end Packets
end StationChat
