import TuiChat.Crypto.Identity
import Mathlib.Data.String.Basic
import Mathlib.Data.Sym.Sym2

/-!
# Identifiers that both sides compute

`conversation_id` and `safety_code` put what they are given in order before they hash it, so both sides
hash one byte string. The names hold no NUL, so the zero byte behind a name ends it, and the master keys
are of one length: the byte string can be read back, and two unordered pairs that give it are one pair
(`identifiers_symmetric`).
-/

namespace TuiChat

open Lib (Bytes)
open Lib.Wire (utf8)

/-- The name holds no NUL. -/
def NulFree (name : String) : Prop := '\x00' ∉ name.toList

/-- What a safety code covers of a user. -/
structure Party where
  username : String
  masterKey : Bytes
  nulFree : NulFree username
  length_masterKey : masterKey.length = 32

@[ext] theorem Party.ext {x y : Party} (husername : x.username = y.username) (hkey : x.masterKey = y.masterKey) :
    x = y := by
  cases x
  cases y
  cases husername
  cases hkey
  rfl

namespace Party

def safetyCodeInput (x y : Party) : Bytes :=
  TuiChat.safetyCodeInput x.username x.masterKey y.username y.masterKey

def safetyCode (P : Primitives) (x y : Party) : String :=
  TuiChat.safetyCode P x.username x.masterKey y.username y.masterKey

end Party

/-! ## In order -/

/-- Of two names that are put in order, it does not matter which is given first. -/
theorem ordered_comm {α β : Type} [LinearOrder α] (f : β → α) (x y : β) (h : f x = f y → x = y) :
    (if f x ≤ f y then (x, y) else (y, x)) = if f y ≤ f x then (y, x) else (x, y) := by
  rcases lt_trichotomy (f x) (f y) with hlt | heq | hlt
  · rw [if_pos hlt.le, if_neg (not_le.2 hlt)]
  · rw [h heq]
  · rw [if_neg (not_le.2 hlt), if_pos hlt.le]

/-- Two pairs that are one when they are put in order have the same members. -/
theorem sym2_of_ordered {α : Type} {x y z w : α} {p q : Prop} [Decidable p] [Decidable q]
    (h : (if p then (x, y) else (y, x)) = if q then (z, w) else (w, z)) : s(x, y) = s(z, w) := by
  rw [Sym2.eq_iff]
  split at h
  · split at h
    · exact .inl (Prod.mk.inj h)
    · exact .inr (Prod.mk.inj h)
  · split at h
    · exact .inr (Prod.mk.inj h).symm
    · exact .inl (Prod.mk.inj h).symm

/-! ## The hashed byte strings -/

def orderedAccounts (a b : String) : String × String := if a ≤ b then (a, b) else (b, a)

theorem conversationInput_eq (a b : String) : conversationInput a b =
    utf8 "tui-chat-conversation-v1" ++ [0] ++ utf8 (orderedAccounts a b).1 ++ [0] ++
      utf8 (orderedAccounts a b).2 := rfl

theorem conversationInput_comm (a b : String) : conversationInput a b = conversationInput b a := by
  have hordered : orderedAccounts a b = orderedAccounts b a := ordered_comm id a b id
  rw [conversationInput_eq, conversationInput_eq, hordered]

theorem NulFree.orderedAccounts {a b : String} (ha : NulFree a) (hb : NulFree b) :
    NulFree (orderedAccounts a b).1 := by
  unfold TuiChat.orderedAccounts
  split
  · exact ha
  · exact hb

theorem conversationInput_eq_iff {a b c d : String} (ha : NulFree a) (hb : NulFree b) (hc : NulFree c)
    (hd : NulFree d) : conversationInput a b = conversationInput c d ↔ s(a, b) = s(c, d) := by
  constructor
  · intro h
    rw [conversationInput_eq, conversationInput_eq] at h
    simp only [List.append_assoc, List.append_cancel_left_eq, List.singleton_append] at h
    obtain ⟨hfirst, hsecond⟩ := Lib.Wire.terminated_injective
      (Lib.Wire.zero_notMem_utf8 (ha.orderedAccounts hb)) (Lib.Wire.zero_notMem_utf8 (hc.orderedAccounts hd))
      (List.cons.inj h).2
    exact sym2_of_ordered (Prod.ext (Lib.Wire.utf8_injective hfirst) (Lib.Wire.utf8_injective hsecond))
  · intro h
    rcases Sym2.eq_iff.1 h with ⟨rfl, rfl⟩ | ⟨rfl, rfl⟩
    · rfl
    · exact conversationInput_comm a b

namespace Party

def ordered (x y : Party) : Party × Party := if x.username ≤ y.username then (x, y) else (y, x)

theorem safetyCodeInput_eq (x y : Party) : safetyCodeInput x y =
    utf8 "tui-chat-safety-code-v1" ++ [0] ++ utf8 (ordered x y).1.username ++ [0] ++
      (ordered x y).1.masterKey ++ utf8 (ordered x y).2.username ++ [0] ++ (ordered x y).2.masterKey := by
  unfold safetyCodeInput TuiChat.safetyCodeInput ordered
  by_cases h : x.username ≤ y.username
  · simp only [if_pos h]
  · simp only [if_neg h]

theorem ordered_comm {x y : Party} (h : x.username ≠ y.username) : ordered x y = ordered y x :=
  TuiChat.ordered_comm username x y fun heq => absurd heq h

theorem safetyCodeInput_comm {x y : Party} (h : x.username ≠ y.username) :
    safetyCodeInput x y = safetyCodeInput y x := by
  rw [safetyCodeInput_eq, safetyCodeInput_eq, ordered_comm h]

/-- The first name ends at its terminator and the first key has its length; then comes the second name. -/
theorem safetyCodeInput_eq_iff {x y z w : Party} (hxy : x.username ≠ y.username) :
    safetyCodeInput x y = safetyCodeInput z w ↔ s(x, y) = s(z, w) := by
  constructor
  · intro h
    rw [safetyCodeInput_eq, safetyCodeInput_eq] at h
    simp only [List.append_assoc, List.append_cancel_left_eq, List.singleton_append] at h
    obtain ⟨hname, hrest⟩ := Lib.Wire.terminated_injective
      (Lib.Wire.zero_notMem_utf8 (ordered x y).1.nulFree) (Lib.Wire.zero_notMem_utf8 (ordered z w).1.nulFree)
      (List.cons.inj h).2
    obtain ⟨hkey, hsecond⟩ := List.append_inj hrest
      ((ordered x y).1.length_masterKey.trans (ordered z w).1.length_masterKey.symm)
    obtain ⟨hname', hkey'⟩ := Lib.Wire.terminated_injective
      (Lib.Wire.zero_notMem_utf8 (ordered x y).2.nulFree) (Lib.Wire.zero_notMem_utf8 (ordered z w).2.nulFree)
      hsecond
    exact sym2_of_ordered (Prod.ext (Party.ext (Lib.Wire.utf8_injective hname) hkey)
      (Party.ext (Lib.Wire.utf8_injective hname') hkey'))
  · intro h
    rcases Sym2.eq_iff.1 h with ⟨rfl, rfl⟩ | ⟨rfl, rfl⟩
    · rfl
    · exact safetyCodeInput_comm hxy

end Party

/-- Both sides compute one identifier, and what they hash for it belongs to one unordered pair. -/
theorem identifiers_symmetric (P : Primitives) :
    (∀ a b, NulFree a → NulFree b → conversationId P.sha256 a b = conversationId P.sha256 b a) ∧
    (∀ a b c d, NulFree a → NulFree b → NulFree c → NulFree d →
      (conversationInput a b = conversationInput c d ↔ s(a, b) = s(c, d))) ∧
    (∀ x y : Party, x.username ≠ y.username → x.safetyCode P y = y.safetyCode P x) ∧
    ∀ x y z w : Party, x.username ≠ y.username → z.username ≠ w.username →
      (x.safetyCodeInput y = z.safetyCodeInput w ↔ s(x, y) = s(z, w)) := by
  refine ⟨fun a b _ _ => ?_, fun a b c d ha hb hc hd => conversationInput_eq_iff ha hb hc hd, fun x y h => ?_,
    fun x y z w hxy _ => Party.safetyCodeInput_eq_iff hxy⟩
  · unfold conversationId
    rw [conversationInput_comm]
  · have hinput := Party.safetyCodeInput_comm h
    unfold Party.safetyCodeInput at hinput
    unfold Party.safetyCode TuiChat.safetyCode
    rw [hinput]

end TuiChat
