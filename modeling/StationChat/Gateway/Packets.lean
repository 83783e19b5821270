import StationChat.Gateway.Safety
import StationChat.Protocol.Decoding

/-! Which packets the gateway treats as if it had checked that every byte is there. -/
namespace StationChat
open Lib Lib.Action Lib.Decoder

/-- The two bytes of a type code. -/
def ChatRequestType.codeBytes (type : ChatRequestType) : List UInt8 :=
  [UInt8.ofNat type.code.toNat, UInt8.ofNat (type.code.toNat / 256)]

/-- A packet is handled only if no read of it comes up short, and otherwise changes nothing; the loops store
no more units than the packet has pairs of bytes; and the request depends on the packet alone. -/
structure PacketSafe (bytes : List UInt8) : Prop where
  complete : ∀ memory request, (decodePacket memory bytes).1 = some request →
    (decodePacket memory bytes).2.stream.good = true
  unchanged : ∀ memory client s, (decodePacket memory bytes).2.stream.good = false →
    onIncoming memory client bytes s = (.ok (), s)
  bounded : ∀ memory, (decodePacket memory bytes).2.stored ≤ bytes.length
  determined : ∀ memory memory', (decodePacket memory bytes).1 = (decodePacket memory' bytes).1

variable {memory : Nat → UInt8} {bytes : List UInt8}

section TypeCode

/-- The two bytes that the variable for the type code holds after the read. -/
def codeRead (memory : Nat → UInt8) (bytes : List UInt8) : List UInt8 :=
  bytes.take 2 ++ (declared memory 0 2).drop bytes.length

theorem codeBytes_littleEndian (type : ChatRequestType) :
    UInt16.ofNat (littleEndian type.codeBytes) = type.code := by
  cases type <;> rfl

theorem length_codeRead (memory : Nat → UInt8) (bytes : List UInt8) : (codeRead memory bytes).length = 2 := by
  simp only [codeRead, List.length_append, List.length_take, List.length_drop, length_declared]
  omega

/-- Two bytes that are read as a code are the bytes of the code. -/
theorem eq_codeBytes {type : ChatRequestType} {pair : List UInt8} (hlength : pair.length = 2)
    (h : UInt16.ofNat (littleEndian pair) = type.code) : pair = type.codeBytes := by
  obtain ⟨low, high, rfl⟩ := List.length_eq_two.mp hlength
  have hlow := low.toNat_lt
  have hhigh := high.toNat_lt
  have hcode : low.toNat + 256 * high.toNat = type.code.toNat := by
    rw [← h, UInt16.toNat_ofNat']
    simp only [littleEndian]
    omega
  rw [ChatRequestType.codeBytes, ← hcode]
  have hfirst : UInt8.ofNat (low.toNat + 256 * high.toNat) = low := by
    apply UInt8.toNat_inj.mp
    rw [UInt8.toNat_ofNat']
    omega
  have hsecond : UInt8.ofNat ((low.toNat + 256 * high.toNat) / 256) = high := by
    apply UInt8.toNat_inj.mp
    rw [UInt8.toNat_ofNat']
    omega
  rw [hfirst, hsecond]

theorem decodePacket_eq (memory : Nat → UInt8) (bytes : List UInt8) : decodePacket memory bytes =
    (match ChatRequestType.ofCode (UInt16.ofNat (littleEndian (codeRead memory bytes))) with
      | some type => some <$> type.read
      | none => pure none).run memory ⟨((InputStream.mk bytes true).read (declared memory 0 2)).2, 2, 0⟩ := rfl

theorem decodePacket_of_code {type : ChatRequestType} (h : codeRead memory bytes = type.codeBytes) :
    (decodePacket memory bytes).1.isSome := by
  rw [decodePacket_eq, h, codeBytes_littleEndian, ChatRequestType.ofCode_code]
  simp only [run_map, Option.isSome_some]

theorem decodePacket_of_no_code (h : ∀ type : ChatRequestType, codeRead memory bytes ≠ type.codeBytes) :
    ∃ stream, decodePacket memory bytes = (none, ⟨stream, 2, 0⟩) := by
  rw [decodePacket_eq]
  cases hcode : ChatRequestType.ofCode (UInt16.ofNat (littleEndian (codeRead memory bytes))) with
  | none => exact ⟨_, rfl⟩
  | some type =>
    have htype : type.code = UInt16.ofNat (littleEndian (codeRead memory bytes)) := by
      simpa using List.find?_some hcode
    exact absurd (eq_codeBytes (length_codeRead memory bytes) htype.symm) (h type)

/-- A packet that starts like a code is read as the code, if the memory goes on like it. -/
theorem exists_codeRead {type : ChatRequestType} (h : bytes.take 2 <+: type.codeBytes) :
    ∃ memory, codeRead memory bytes = type.codeBytes := by
  obtain ⟨rest, hrest⟩ := h
  refine ⟨fun i => type.codeBytes.getD i 0, ?_⟩
  have hdeclared : declared (fun i => type.codeBytes.getD i 0) 0 2 = type.codeBytes := rfl
  have hdrop : type.codeBytes.drop bytes.length = rest := by
    by_cases hle : bytes.length ≤ 2
    · rw [← hrest, List.take_of_length_le hle, List.drop_left]
    · have hlength := congrArg List.length hrest
      have htwo : type.codeBytes.length = 2 := rfl
      rw [List.length_append, List.length_take, htwo] at hlength
      rw [List.drop_eq_nil_of_le (by omega), List.eq_nil_of_length_eq_zero (by omega : rest.length = 0)]
  rw [codeRead, hdeclared, hdrop, hrest]

end TypeCode

/-- A packet is safe if and only if it holds every byte that is read of it, or is too short for a type code and
no code starts like it. -/
theorem packetSafe_iff (bytes : List UInt8) : PacketSafe bytes ↔
    (readPacket.parse bytes).isSome ∨ ∀ type : ChatRequestType, ¬ bytes.take 2 <+: type.codeBytes := by
  constructor
  · intro hsafe
    by_cases hparse : (readPacket.parse bytes).isSome
    · exact .inl hparse
    · right
      intro type hprefix
      obtain ⟨memory, hcode⟩ := exists_codeRead hprefix
      obtain ⟨request, hrequest⟩ := Option.isSome_iff_exists.mp (decodePacket_of_code hcode)
      exact hparse ((run_good_iff readPacket).mp (hsafe.complete memory request hrequest))
  · rintro (hparse | hnone)
    · obtain ⟨⟨result, rest⟩, hparse⟩ := Option.isSome_iff_exists.mp hparse
      have hrun := fun memory => run_of_parse memory hparse 0 0
      refine ⟨fun memory _ _ => ?_, fun memory _ _ hbad => ?_, fun memory => ?_, fun memory memory' => ?_⟩
      all_goals obtain ⟨used, stored, hdecode, hstored⟩ := hrun memory
      · rw [decodePacket, start, hdecode]
      · rw [decodePacket, start, hdecode] at hbad
        exact absurd hbad (by simp)
      · rw [decodePacket, start, hdecode]
        change stored ≤ bytes.length
        omega
      · obtain ⟨used', stored', hdecode', -⟩ := hrun memory'
        rw [decodePacket, decodePacket, start, hdecode, hdecode']
    · have hdecode : ∀ memory, ∃ stream, decodePacket memory bytes = (none, ⟨stream, 2, 0⟩) := by
        intro memory
        apply decodePacket_of_no_code
        intro type hcode
        exact hnone type (hcode ▸ List.prefix_append _ _)
      refine ⟨fun memory _ hsome => ?_, fun memory client s _ => ?_, fun memory => ?_, fun memory memory' => ?_⟩
      all_goals obtain ⟨stream, hdecode'⟩ := hdecode memory
      · rw [hdecode'] at hsome
        exact absurd hsome (by simp)
      · rw [onIncoming, hdecode']
        rfl
      · rw [hdecode']
        exact Nat.zero_le _
      · obtain ⟨stream', hdecode''⟩ := hdecode memory'
        rw [hdecode', hdecode'']

/-- The two bytes of a LOGINAVATAR code alone are handled: an avatar is stored, its track number and the length of
its name being whatever the memory held. -/
theorem short_packet_handled :
    (decodePacket (fun _ => 0) [0, 0]).2.stream.good = false ∧
    (onIncoming (fun _ => 0) 0 [0, 0] Server.blank.connect).2.db.avatar = [⟨1, 0, [], [], 0⟩] ∧
    (decodePacket (fun i => if i = 10 then 5 else 0) [0, 0]).2.stored = 10 ∧
    (decodePacket (fun i => if i = 2 then 5 else 0) [0, 0]).1 ≠ (decodePacket (fun _ => 0) [0, 0]).1 ∧
    ¬ PacketSafe [0, 0] := by
  have hstored : (decodePacket (fun i => if i = 10 then 5 else 0) [0, 0]).2.stored = 10 := by decide +kernel
  refine ⟨by decide +kernel, by decide +kernel, hstored, by decide +kernel, fun hsafe => ?_⟩
  have hbounded := hsafe.bounded fun i => if i = 10 then 5 else 0
  rw [hstored] at hbounded
  exact absurd hbounded (by decide)

end StationChat
