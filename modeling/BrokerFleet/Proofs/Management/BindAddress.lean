import BrokerFleet.Management.Listener
import BrokerFleet.Proofs.Numerals
import BrokerFleet.Proofs.Separators
import Mathlib.Logic.ExistsUnique

/-!
The addresses that listeners are bound to. An address ends in its port, after a colon if a host stands in front, and
hosts may have colons of their own: the port is what the text after the last colon spells, be the host what it may, and
an address that is written down for a host and a port is read back as that port.
-/

namespace BrokerFleet.Listener

variable {bind tail : String} {port : Nat}

/-- The text stands after the last colon of the address, or is all of an address without colons. -/
def EndsIn (bind tail : String) : Prop :=
  ':' ∉ tail.toList ∧ (bind = tail ∨ ∃ host, bind = host ++ ":" ++ tail)

/-! ### The end of an address -/

theorem toList_hostAndTail (host tail : String) :
    (host ++ ":" ++ tail).toList = host.toList ++ ':' :: tail.toList := by
  rw [String.toList_append, String.toList_append, List.append_assoc]
  rfl

theorem EndsIn.afterLast_eq (ends : EndsIn bind tail) : Text.afterLast ':' bind.toList = tail.toList := by
  obtain ⟨free, rfl | ⟨host, rfl⟩⟩ := ends
  · exact Text.afterLast_of_not_mem free
  · rw [toList_hostAndTail]
    exact Text.afterLast_append free

theorem exists_endsIn (bind : String) : ∃ tail, EndsIn bind tail := by
  by_cases colon : ':' ∈ bind.toList
  · obtain ⟨front, rest, same, free⟩ := Text.exists_last colon
    refine ⟨.ofList rest, by rwa [String.toList_ofList], .inr ⟨.ofList front, String.toList_inj.mp ?_⟩⟩
    rw [toList_hostAndTail, String.toList_ofList, String.toList_ofList, same]
  · exact ⟨bind, colon, .inl rfl⟩

theorem existsUnique_endsIn (bind : String) : ∃! tail, EndsIn bind tail := by
  obtain ⟨tail, ends⟩ := exists_endsIn bind
  refine ⟨tail, ends, fun other ends' => String.toList_inj.mp ?_⟩
  rw [← ends.afterLast_eq, ← ends'.afterLast_eq]

/-! ### The port -/

theorem bindPort?_eq_some_iff (ends : EndsIn bind tail) :
    bindPort? bind = some port ↔ (1 ≤ port ∧ port ≤ 65535) ∧ Text.Spells tail.toList port := by
  rw [bindPort?, ends.afterLast_eq, Option.filter_eq_some_iff, Text.natUpTo?, Option.filter_eq_some_iff,
    Text.nat?_eq_some_iff, decide_eq_true_eq, bne_iff_ne, ← Nat.one_le_iff_ne_zero]
  constructor
  · rintro ⟨⟨spelled, high⟩, low⟩
    exact ⟨⟨low, high⟩, spelled⟩
  · rintro ⟨⟨low, high⟩, spelled⟩
    exact ⟨⟨spelled, high⟩, low⟩

theorem bindPort?_valid (bound : bindPort? bind = some port) : 1 ≤ port ∧ port ≤ 65535 := by
  obtain ⟨tail, ends⟩ := exists_endsIn bind
  exact ((bindPort?_eq_some_iff ends).mp bound).1

theorem bindPort?_of_ends_in_port (valid : 1 ≤ port ∧ port ≤ 65535) (ends : EndsIn bind (toString port)) :
    bindPort? bind = some port :=
  (bindPort?_eq_some_iff ends).mpr ⟨valid, Text.spells_toString port⟩

/-- A port is read back from its address, whatever the host is, and from itself; what is read is the number of a port,
and addresses that end alike have the same port or none. -/
theorem port_read_off_address :
    (∀ (host : String) (port : Nat), 1 ≤ port → port ≤ 65535 →
      bindPort? (host ++ ":" ++ toString port) = some port ∧ bindPort? (toString port) = some port) ∧
    (∀ (bind : String) (port : Nat), bindPort? bind = some port → 1 ≤ port ∧ port ≤ 65535) ∧
    (∀ bind : String, ∃! tail, EndsIn bind tail) ∧
    (∀ bind other tail : String, EndsIn bind tail → EndsIn other tail → bindPort? bind = bindPort? other) := by
  refine ⟨fun host port low high => ?_, fun bind port => bindPort?_valid, existsUnique_endsIn, ?_⟩
  · have free : ':' ∉ (toString port).toList := Text.not_mem_toString (by decide)
    constructor
    · exact bindPort?_of_ends_in_port ⟨low, high⟩ ⟨free, .inr ⟨host, rfl⟩⟩
    · exact bindPort?_of_ends_in_port ⟨low, high⟩ ⟨free, .inl rfl⟩
  · intro bind other tail ends ends'
    refine Option.ext fun port => ?_
    rw [bindPort?_eq_some_iff ends, bindPort?_eq_some_iff ends']

theorem port_of_bracketed_host : (1 ≤ 8883 ∧ 8883 ≤ 65535) ∧
    bindPort? "[fe80::1%eth0]:8883" = some 8883 ∧ bindPort? "8883" = some 8883 ∧
    EndsIn "[::]:+8883" "+8883" ∧ EndsIn "+8883" "+8883" ∧ bindPort? "[::]:+8883" = bindPort? "+8883" := by
  obtain ⟨read, valid, -, alike⟩ := port_read_off_address
  have address : "[fe80::1%eth0]" ++ ":" ++ toString 8883 = "[fe80::1%eth0]:8883" := by decide +kernel
  obtain ⟨behind, alone⟩ := read "[fe80::1%eth0]" 8883 (by decide) (by decide)
  have free : ':' ∉ "+8883".toList := by decide +kernel
  have ends : EndsIn "[::]:+8883" "+8883" := ⟨free, .inr ⟨"[::]", by decide +kernel⟩⟩
  have whole : EndsIn "+8883" "+8883" := ⟨free, .inl rfl⟩
  exact ⟨valid _ _ alone, address ▸ behind, alone, ends, whole, alike _ _ _ ends whole⟩

end BrokerFleet.Listener
