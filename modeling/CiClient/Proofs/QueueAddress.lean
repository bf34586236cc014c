import Mathlib.Algebra.Group.Int.Defs
import Mathlib.Algebra.Group.Nat.Defs
import Mathlib.Data.List.TakeWhile
import CiClient.Proofs.AsciiChars
import CiClient.Proofs.TextPieces
import CiClient.Proofs.WriteOutcomes

/-!
# Addresses of items of the queue

An address names an item by the digits behind `/queue/item/` at its end. `NamesItem` says so without
reading: any text may come first, also one with further marks, and one slash may come last. The
reader goes from the end, so it meets the digits first and cannot stop at another mark:
`namesItem_iff`. Hence an address names at most one number, and the reader finds it if it has 64
bits.
-/

set_option autoImplicit false

namespace CiClient

open Http (Headers)

/-! ## Numbers in digits -/

namespace Text

/-- The digits a number is written with have its value. -/
theorem digitsValue_repr (n : Nat) : digitsValue (Nat.repr n).toList = n := by
  rw [Nat.toList_repr]
  exact Nat.ofDigitChars_toDigits (by decide) (by decide)

/-- A run of digits has no sign in front. -/
theorem integer?_of_digits {digits : List Char} (hne : digits ≠ [])
    (h : ∀ c ∈ digits, isDigit c = true) : integer? digits = some (digitsValue digits : Int) := by
  have hnatural : natural? digits = some (digitsValue digits) := by
    rw [natural?, if_neg]
    simpa [hne] using h
  obtain ⟨c, cs, rfl⟩ := List.exists_cons_of_ne_nil hne
  have hc := h c List.mem_cons_self
  have hplus : c ≠ '+' := by
    rintro rfl
    cases hc
  have hminus : c ≠ '-' := by
    rintro rfl
    cases hc
  rw [integer?.eq_3 _ (fun _ heq => hplus (List.cons.inj heq).1)
    (fun _ heq => hminus (List.cons.inj heq).1), hnatural]
  rfl

/-- A run of digits is read when its value is less than `2 ^ 63`. -/
theorem int64?_of_digits {digits : List Char} (hne : digits ≠ [])
    (h : ∀ c ∈ digits, isDigit c = true) :
    int64? digits =
      if digitsValue digits < 2 ^ 63 then some (Int64.ofInt (digitsValue digits)) else none := by
  have hmin : Int64.minValue.toInt = -2 ^ 63 := by decide
  have hmax : Int64.maxValue.toInt = 2 ^ 63 - 1 := by decide
  have hfits : fitsInt64 (digitsValue digits) = decide (digitsValue digits < 2 ^ 63) := by
    rw [fitsInt64, hmin, hmax, ← Bool.decide_and, decide_eq_decide]
    omega
  rw [int64?, integer?_of_digits hne h]
  simp only [hfits, decide_eq_true_eq]

/-- A run of digits is read as the number that it stands for. -/
theorem int64?_of_digits_eq_some_iff {digits : List Char} (hne : digits ≠ [])
    (h : ∀ c ∈ digits, isDigit c = true) {number : Int64} :
    int64? digits = some number ↔ number.toInt = digitsValue digits := by
  rw [int64?_of_digits hne h]
  split
  · rename_i hlt
    have htoInt : (Int64.ofInt (digitsValue digits)).toInt = digitsValue digits :=
      Int64.toInt_ofInt_of_le (by omega) (by omega)
    rw [Option.some.injEq, ← Int64.toInt_inj, htoInt, eq_comm]
  · rename_i hlt
    have hnumber := number.toInt_lt
    exact iff_of_false nofun (by omega)

/-- The codes of the ten digits are next to each other. -/
theorem toNat_of_isDigit {c : Char} (h : isDigit c = true) : 48 ≤ c.toNat ∧ c.toNat ≤ 57 := by
  rw [isDigit, Bool.and_eq_true, decide_eq_true_eq, decide_eq_true_eq] at h
  exact h

/-- No digit is blank. -/
theorem isBlank_of_isDigit {c : Char} (h : isDigit c = true) : isBlank c = false := by
  have hrange := toNat_of_isDigit h
  exact forall_of_ascii (P := fun c => isDigit c = true → isBlank c = false) (by decide)
    (by omega) h

end Text

/-! ## The first field of a name -/

/-- The value of a name is that of the first field with this name. -/
theorem Http.Headers.get?_eq_some_iff {h : Headers} {name value : String}
    (hname : lower name = name) :
    h.get? name = some value ↔
      ∃ before after, h.fields = before ++ (name, value) :: after ∧
        ∀ field ∈ before, field.1 ≠ name := by
  rw [get?, getAll, hname, List.head?_map, List.head?_filter, Option.map_eq_some_iff]
  constructor
  · rintro ⟨⟨other, _⟩, hfind, rfl⟩
    obtain ⟨hother, before, after, hfields, hbefore⟩ := List.find?_eq_some_iff_append.mp hfind
    obtain rfl : other = name := by simpa using hother
    exact ⟨before, after, hfields, fun field hfield => by simpa using hbefore field hfield⟩
  · rintro ⟨before, after, hfields, hbefore⟩
    refine ⟨(name, value),
      List.find?_eq_some_iff_append.mpr ⟨by simp, before, after, hfields, ?_⟩, rfl⟩
    intro field hfield
    simpa using hbefore field hfield

/-- Two texts can be read together when each of them can. -/
theorem Http.Headers.isReadable_append (a b : String) :
    isReadable (a ++ b) = (isReadable a && isReadable b) := by
  rw [isReadable, String.toList_append, List.all_append]
  rfl

namespace Ticket

/-! ## Addresses that name an item -/

/-- An address that names an item by its number: any text, the mark, a run of digits, and perhaps a
slash. -/
def NamesItem (address : List Char) (n : Nat) : Prop :=
  ∃ front digits back, address = front ++ "/queue/item/".toList ++ digits ++ back ∧
    digits ≠ [] ∧ (∀ c ∈ digits, Text.isDigit c = true) ∧ Text.digitsValue digits = n ∧
    (back = [] ∨ back = ['/'])

/-- An address from its end, without a slash there. -/
def backwards (address : List Char) : List Char :=
  match address.reverse with
  | '/' :: rest => rest
  | rest => rest

/-- Of an address only one slash at its end can be missing backwards. -/
theorem exists_eq_backwards (address : List Char) :
    ∃ back, address = (backwards address).reverse ++ back ∧ (back = [] ∨ back = ['/']) := by
  unfold backwards
  split
  · rename_i rest hreverse
    refine ⟨['/'], ?_, Or.inr rfl⟩
    rw [← List.reverse_cons, ← hreverse, List.reverse_reverse]
  · exact ⟨[], by simp, Or.inl rfl⟩

/-- Only a slash is taken off, so a text that ends in another character stays. -/
theorem backwards_append {text back : List Char} (htext : ∀ c ∈ text.getLast?, c ≠ '/')
    (hback : back = [] ∨ back = ['/']) :
    backwards (text ++ back) = text.reverse := by
  rcases hback with rfl | rfl
  · rw [List.append_nil, backwards]
    split
    · rename_i rest hreverse
      rw [← List.head?_reverse, hreverse] at htext
      exact absurd rfl (htext '/' rfl)
    · rfl
  · rw [backwards, List.reverse_append]
    rfl

/-- The mark begins with a slash, so no digit stands at its front. -/
theorem head_itemMark (rest : List Char) :
    (itemMark ++ rest).takeWhile Text.isDigit = [] ∧
      (itemMark ++ rest).dropWhile Text.isDigit = itemMark ++ rest :=
  ⟨rfl, rfl⟩

/-- Backwards the digits come first, then the mark. -/
theorem namesItem_iff {address : List Char} {n : Nat} :
    NamesItem address n ↔
      (backwards address).takeWhile Text.isDigit ≠ [] ∧
        itemMark <+: (backwards address).dropWhile Text.isDigit ∧
        Text.digitsValue ((backwards address).takeWhile Text.isDigit).reverse = n := by
  constructor
  · rintro ⟨front, digits, back, rfl, hne, hdigits, hvalue, hback⟩
    have hlast : ∀ c ∈ (front ++ "/queue/item/".toList ++ digits).getLast?, c ≠ '/' := by
      rw [List.getLast?_append_of_ne_nil _ hne]
      rintro c hc rfl
      exact absurd (hdigits _ (List.mem_of_getLast? hc)) (by decide)
    have hreverse : (front ++ "/queue/item/".toList ++ digits).reverse =
        digits.reverse ++ (itemMark ++ front.reverse) := by
      simp [itemMark]
    have hall : ∀ c ∈ digits.reverse, Text.isDigit c = true :=
      fun c hc => hdigits c (List.mem_reverse.mp hc)
    obtain ⟨htake, hdrop⟩ := head_itemMark front.reverse
    rw [backwards_append hlast hback, hreverse,
      List.takeWhile_append_of_pos hall, List.dropWhile_append_of_pos hall, htake, hdrop,
      List.append_nil, List.reverse_reverse]
    exact ⟨by simpa using hne, List.prefix_append _ _, hvalue⟩
  · rintro ⟨hne, ⟨rest, hrest⟩, hvalue⟩
    obtain ⟨back, haddress, hback⟩ := exists_eq_backwards address
    refine ⟨rest.reverse, _, back, ?_, by simpa using hne, ?_, hvalue, hback⟩
    · rw [← List.takeWhile_append_dropWhile (p := Text.isDigit) (l := backwards address),
        ← hrest] at haddress
      refine haddress.trans ?_
      simp [itemMark]
    · intro c hc
      exact List.mem_takeWhile_imp (List.mem_reverse.mp hc)

/-- Further marks in front do not matter. -/
theorem NamesItem.unique {address : List Char} {m n : Nat} (hm : NamesItem address m)
    (hn : NamesItem address n) : m = n :=
  (namesItem_iff.mp hm).2.2.symm.trans (namesItem_iff.mp hn).2.2

/-- The reader finds the number an address names, if it has 64 bits. -/
theorem itemNumber?_eq_some_iff {address : List Char} {number : Int64} :
    itemNumber? address = some number ↔ ∃ n : Nat, NamesItem address n ∧ number.toInt = n := by
  have hall : ∀ c ∈ ((backwards address).takeWhile Text.isDigit).reverse,
      Text.isDigit c = true :=
    fun c hc => List.mem_takeWhile_imp (List.mem_reverse.mp hc)
  have hread : itemNumber? address =
      if (!((backwards address).takeWhile Text.isDigit).reverse.isEmpty &&
        itemMark.isPrefixOf ((backwards address).dropWhile Text.isDigit)) = true
      then Text.int64? ((backwards address).takeWhile Text.isDigit).reverse else none := rfl
  simp only [namesItem_iff]
  by_cases hmark : (backwards address).takeWhile Text.isDigit ≠ [] ∧
      itemMark <+: (backwards address).dropWhile Text.isDigit
  · obtain ⟨hne, hprefix⟩ := hmark
    have hdigits : ((backwards address).takeWhile Text.isDigit).reverse ≠ [] := by simpa using hne
    rw [hread, if_pos, Text.int64?_of_digits_eq_some_iff hdigits hall]
    · simp [hne, hprefix]
    · simp [hne, List.isPrefixOf_iff_prefix.mpr hprefix]
  · rw [hread, if_neg]
    · refine iff_of_false nofun ?_
      rintro ⟨n, ⟨hne, hprefix, -⟩, -⟩
      exact hmark ⟨hne, hprefix⟩
    · simpa [List.isPrefixOf_iff_prefix] using hmark

/-- White space around an address does not matter. -/
theorem NamesItem.trimChars {address : List Char} {n : Nat} (h : NamesItem address n) :
    NamesItem (Text.trimChars address) n := by
  obtain ⟨front, digits, back, rfl, hne, hdigits, hvalue, hback⟩ := h
  have hlast : ∀ c ∈ ("queue/item/".toList ++ digits ++ back).getLast?, Text.isBlank c = false := by
    intro c hc
    rcases hback with rfl | rfl
    · rw [List.append_nil, List.getLast?_append_of_ne_nil _ hne] at hc
      exact Text.isBlank_of_isDigit (hdigits c (List.mem_of_getLast? hc))
    · rw [List.getLast?_concat] at hc
      rw [← Option.some.inj hc]
      decide
  have htext : front ++ "/queue/item/".toList ++ digits ++ back =
      front ++ '/' :: ("queue/item/".toList ++ digits ++ back) := by
    simp
  rw [htext, Text.trimChars_append_cons (by decide), Text.dropEndWhile_eq_self hlast]
  exact ⟨front.dropWhile Text.isBlank, digits, back, by simp, hne, hdigits, hvalue, hback⟩

/-! ## Places in header fields -/

/-- The first location among header fields can be read and, trimmed, names an item. -/
def LeadsTo (headers : Headers) (n : Nat) : Prop :=
  ∃ before value after, headers.fields = before ++ ("location", value) :: after ∧
    (∀ field ∈ before, field.1 ≠ "location") ∧ Headers.isReadable value = true ∧
    NamesItem (Text.trimChars value.toList) n

/-- Headers lead to an item when the text of their location names it. -/
theorem leadsTo_iff {headers : Headers} {n : Nat} :
    LeadsTo headers n ↔
      ∃ address, headers.text? "location" = some address ∧ NamesItem address.toList n := by
  have hname : Headers.lower "location" = "location" := by decide
  unfold Headers.text?
  constructor
  · rintro ⟨before, value, after, hfields, hbefore, hreadable, hnames⟩
    have hvalue : headers.get? "location" = some value :=
      (Headers.get?_eq_some_iff hname).mpr ⟨before, after, hfields, hbefore⟩
    refine ⟨Text.trim value, ?_, by rwa [Text.toList_trim]⟩
    rw [hvalue, Option.bind_some, if_pos hreadable]
  · rintro ⟨address, haddress, hnames⟩
    obtain ⟨value, hvalue, haddress⟩ := Option.bind_eq_some_iff.mp haddress
    obtain ⟨before, after, hfields, hbefore⟩ := (Headers.get?_eq_some_iff hname).mp hvalue
    split at haddress
    · rename_i hreadable
      cases haddress
      rw [Text.toList_trim] at hnames
      exact ⟨before, value, after, hfields, hbefore, hreadable, hnames⟩
    · cases haddress

/-- A ticket has a number and no failure exactly when the headers lead to this number. -/
theorem ofHeaders_eq_iff {headers : Headers} {number : Int64} :
    ofHeaders headers = ⟨some number, []⟩ ↔ ∃ n : Nat, LeadsTo headers n ∧ number.toInt = n := by
  have hplace : ((headers.text? "location").bind fun address => itemNumber? address.toList) =
      some number ↔ ∃ n : Nat, LeadsTo headers n ∧ number.toInt = n := by
    simp only [Option.bind_eq_some_iff, itemNumber?_eq_some_iff, leadsTo_iff]
    constructor
    · rintro ⟨address, haddress, n, hnames, hnumber⟩
      exact ⟨n, ⟨address, haddress, hnames⟩, hnumber⟩
    · rintro ⟨n, ⟨address, haddress, hnames⟩, hnumber⟩
      exact ⟨address, haddress, n, hnames, hnumber⟩
  rw [← hplace, ofHeaders]
  split
  · rename_i found hfound
    simp [hfound, of]
  · rename_i hnone
    simp [hnone, refused]

/-- Headers lead to one item at most. -/
theorem LeadsTo.unique {headers : Headers} {m n : Nat} (hm : LeadsTo headers m)
    (hn : LeadsTo headers n) : m = n := by
  obtain ⟨address, haddress, hm⟩ := leadsTo_iff.mp hm
  obtain ⟨other, hother, hn⟩ := leadsTo_iff.mp hn
  rw [haddress] at hother
  cases hother
  exact hm.unique hn

/-- A written number behind any text that can be read is found, with and without a slash. -/
theorem leadsTo_of_fields {headers : Headers} {before after : List (String × String)}
    {front back : String} {n : Nat}
    (hfields : headers.fields =
      before ++ ("location", front ++ "/queue/item/" ++ Nat.repr n ++ back) :: after)
    (hbefore : ∀ field ∈ before, field.1 ≠ "location") (hfront : Headers.isReadable front = true)
    (hback : back = "" ∨ back = "/") : LeadsTo headers n := by
  have hdigits : ∀ c ∈ (Nat.repr n).toList, Text.isDigit c = true :=
    fun _ hc => Text.isDigit_of_mem_repr hc
  have hreadable : Headers.isReadable (front ++ "/queue/item/" ++ Nat.repr n ++ back) = true := by
    have hmark : Headers.isReadable "/queue/item/" = true := by decide
    have hnumber : Headers.isReadable (Nat.repr n) = true := by
      refine List.all_eq_true.mpr fun c hc => ?_
      have hrange := Text.toNat_of_isDigit (hdigits c hc)
      simp only [Bool.or_eq_true, beq_iff_eq, Bool.and_eq_true, decide_eq_true_eq]
      omega
    have hend : Headers.isReadable back = true := by
      rcases hback with rfl | rfl <;> decide
    rw [Headers.isReadable_append, Headers.isReadable_append, Headers.isReadable_append, hfront,
      hmark, hnumber, hend]
    rfl
  refine ⟨before, _, after, hfields, hbefore, hreadable, NamesItem.trimChars ?_⟩
  refine ⟨front.toList, (Nat.repr n).toList, back.toList, by simp [String.toList_append], ?_,
    hdigits, Text.digitsValue_repr n, ?_⟩
  · rw [Nat.toList_repr]
    exact Nat.toDigits_ne_nil
  · rcases hback with rfl | rfl
    · exact Or.inl rfl
    · exact Or.inr rfl

/-- A number below `2 ^ 63` has a counterpart with 64 bits. -/
theorem exists_toInt_eq {n : Nat} (h : n < 2 ^ 63) : ∃ number : Int64, number.toInt = n :=
  ⟨.ofInt n, Int64.toInt_ofInt_of_le (by omega) (by omega)⟩

/-- Header fields give a ticket exactly when their first location can be read and, without the white
space around it, ends in the mark, a run of digits and perhaps a slash. The number of the ticket is
the one that the digits denote, whatever stands before the mark, and a location names only one. If
it names none, or none of 64 bits, there is a single failure. A number that is written behind any
readable text comes back. -/
theorem ticket_of_location (headers : Headers) :
    (∀ number : Int64, ofHeaders headers = ⟨some number, []⟩ ↔
      ∃ n : Nat, LeadsTo headers n ∧ number.toInt = n) ∧
    (∀ m n, LeadsTo headers m → LeadsTo headers n → m = n) ∧
    ((∀ n < 2 ^ 63, ¬ LeadsTo headers n) →
      ∃ failure, ofHeaders headers = ⟨none, [failure]⟩ ∧ failure.kind = .numberFormat) ∧
    ∀ before front back after, ∀ n < 2 ^ 63, headers.fields =
        before ++ ("location", front ++ "/queue/item/" ++ Nat.repr n ++ back) :: after →
      (∀ field ∈ before, field.1 ≠ "location") → Headers.isReadable front = true →
      (back = "" ∨ back = "/") →
      ∃ number : Int64, ofHeaders headers = ⟨some number, []⟩ ∧ number.toInt = n := by
  refine ⟨fun number => ofHeaders_eq_iff, fun m n => LeadsTo.unique, ?_, ?_⟩
  · intro hnone
    rcases ofHeaders_cases headers with ⟨number, hnumber⟩ | hrefused
    · obtain ⟨n, hleads, hn⟩ := ofHeaders_eq_iff.mp hnumber
      have hlt := number.toInt_lt
      exact absurd hleads (hnone n (by omega))
    · exact ⟨noItem, hrefused, rfl⟩
  · intro before front back after n hn hfields hbefore hfront hback
    obtain ⟨number, hnumber⟩ := exists_toInt_eq hn
    have hleads := leadsTo_of_fields hfields hbefore hfront hback
    exact ⟨number, ofHeaders_eq_iff.mpr ⟨n, hleads, hnumber⟩, hnumber⟩

/-- An address below another item, with leading zeros and a slash, names the last number; after an
address that cannot be read a good one does not count. -/
theorem ticket_of_location_of_nested :
    (∃ number : Int64, ofHeaders
        ⟨[("server", "ci"), ("location", " /queue/item/12/queue/item/007/")]⟩ =
          ⟨some number, []⟩ ∧ number.toInt = 7) ∧
      ∃ failure, ofHeaders ⟨[("location", "\u00e9"), ("location", "/queue/item/5")]⟩ =
        ⟨none, [failure]⟩ ∧ failure.kind = .numberFormat := by
  constructor
  · have hleads : LeadsTo
        ⟨[("server", "ci"), ("location", " /queue/item/12/queue/item/007/")]⟩ 7 :=
      ⟨[("server", "ci")], _, [], rfl, by decide, by decide,
        "/queue/item/12".toList, "007".toList, ['/'], by decide, by decide,
        List.all_eq_true.mp (by decide), by decide, Or.inr rfl⟩
    exact ⟨7, ((ticket_of_location _).1 7).mpr ⟨7, hleads, by decide⟩, by decide⟩
  · refine (ticket_of_location _).2.2.1 ?_
    rintro n - hleads
    obtain ⟨address, haddress, -⟩ := leadsTo_iff.mp hleads
    have hunreadable : Headers.text? ⟨[("location", "\u00e9"), ("location", "/queue/item/5")]⟩
        "location" = none := by decide
    rw [hunreadable] at haddress
    cases haddress

end Ticket
end CiClient
