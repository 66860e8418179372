import Mathlib.Data.List.Basic
import Playback.Judge.Address
import Playback.Judge.Config
import Playback.Proofs.Json.Escapes
import Playback.Proofs.Outcome
import Playback.Proofs.Text.Blank

/-!
This module contains the proof that what is sent to a judge is in ASCII, whatever script its settings are
written in: names of hosts are encoded, other parts of an address are written with percent signs, and
headers in other scripts are refused.
-/

namespace Playback

namespace Text

theorem isAscii_of_isAlphanum {c : Char} (h : c.isAlphanum = true) : isAscii c = true := by
  have hcode := toNat_of_isAlphanum h
  simp only [isAscii, decide_eq_true_eq]
  omega

theorem isAscii_of_isDigit {c : Char} (h : c.isDigit = true) : isAscii c = true :=
  isAscii_of_isAlphanum (by simp [Char.isAlphanum, h])

theorem isAscii_toLower {c : Char} (h : isAscii c = true) : isAscii c.toLower = true := by
  have hcodes : ∀ n < 0x80, isAscii (Char.ofNat n).toLower = true := by decide +kernel
  have hc := hcodes c.toNat (by simpa [isAscii] using h)
  rwa [Char.ofNat_toNat] at hc

def InAscii (cs : List Char) : Prop :=
  ∀ c ∈ cs, isAscii c = true

theorem InAscii.nil : InAscii [] := by
  simp [InAscii]

theorem InAscii.append {front back : List Char} (hfront : InAscii front) (hback : InAscii back) :
    InAscii (front ++ back) :=
  List.forall_mem_append.mpr ⟨hfront, hback⟩

theorem InAscii.cons {c : Char} {cs : List Char} (hc : isAscii c = true) (hcs : InAscii cs) :
    InAscii (c :: cs) :=
  List.forall_mem_cons.mpr ⟨hc, hcs⟩

theorem InAscii.sublist {part cs : List Char} (h : InAscii cs) (hpart : part.Sublist cs) : InAscii part :=
  fun c hc => h c (hpart.subset hc)

theorem InAscii.intercalate {sep : List Char} {parts : List (List Char)} (hsep : InAscii sep)
    (hparts : ∀ part ∈ parts, InAscii part) : InAscii (sep.intercalate parts) := by
  induction parts with
  | nil => exact .nil
  | cons part parts ih =>
    rw [List.forall_mem_cons] at hparts
    cases parts with
    | nil => simpa using hparts.1
    | cons next parts =>
      rw [List.intercalate_cons_cons]
      exact (hparts.1.append hsep).append (ih hparts.2)

theorem inAscii_of_foreignRun? {cs : List Char} (h : foreignRun? cs = none) : InAscii cs := by
  unfold foreignRun? at h
  split at h
  · next hnil => exact List.dropWhile_eq_nil_iff.mp hnil
  · contradiction

theorem inAscii_percentByte (b : UInt8) : InAscii (percentByte b) := by
  have hbytes : ∀ n < 256, (percentByte (UInt8.ofNat n)).all isAscii = true := by decide +kernel
  have hb := hbytes b.toNat b.toNat_lt
  rw [UInt8.ofNat_toNat] at hb
  exact List.all_eq_true.mp hb

theorem inAscii_percentEncode {isSafe : Char → Bool} (hsafe : ∀ c, isSafe c = true → isAscii c = true)
    (cs : List Char) : InAscii (percentEncode isSafe cs) := by
  intro c hc
  rw [percentEncode, List.mem_flatMap] at hc
  rcases hc with ⟨d, _, hc⟩
  split at hc
  · next hd =>
    rw [List.mem_singleton] at hc
    rw [hc]
    exact hsafe d hd
  · rw [List.mem_flatMap] at hc
    rcases hc with ⟨b, _, hc⟩
    exact inAscii_percentByte b c hc

end Text

open Text

namespace Punycode

theorem isAscii_digitChar {digit : Nat} (h : digit < 36) : isAscii (digitChar digit) = true := by
  revert digit
  decide

theorem inAscii_digits (bias place n : Nat) : InAscii (digits bias place n) := by
  fun_induction digits bias place n with
  | case1 place n limit h =>
    have hlimit : limit ≤ 26 := Nat.min_le_left _ _
    exact .cons (isAscii_digitChar (by omega)) .nil
  | case2 place n limit h ih =>
    have hlimit : limit ≤ 26 := Nat.min_le_left _ _
    have hdigit := Nat.mod_lt (n - limit) (by omega : 0 < 36 - limit)
    exact .cons (isAscii_digitChar (by omega)) ih

theorem inAscii_writeInsertions (cursor : Cursor) (insertions : List Insertion) :
    InAscii (writeInsertions cursor insertions) := by
  induction insertions generalizing cursor with
  | nil => exact .nil
  | cons insertion rest ih => exact (inAscii_digits _ _ _).append (ih _)

theorem inAscii_encode (cs : List Char) : InAscii (encode cs) := by
  have hascii : InAscii (cs.filter isAscii) := fun c hc => (List.mem_filter.mp hc).2
  refine InAscii.append ?_ (inAscii_writeInsertions _ _)
  split
  · exact .nil
  · exact hascii.append (.cons rfl .nil)

end Punycode

namespace HostName

theorem inAscii_of_labelInAscii? {cs ascii : List Char} (h : labelInAscii? cs = some ascii) :
    InAscii ascii := by
  unfold labelInAscii? at h
  split at h
  · contradiction
  · split at h
    · next hcs =>
      rw [Option.ite_none_right_eq_some, Option.some_inj] at h
      rw [← h.2]
      exact List.all_eq_true.mp hcs
    · rw [Option.ite_none_right_eq_some, Option.some_inj] at h
      have hmark : InAscii foreignMark := by simp [InAscii, foreignMark, isAscii]
      rw [← h.2]
      exact hmark.append (Punycode.inAscii_encode cs)

theorem inAscii_of_mem_mapM {labels ascii : List (List Char)}
    (h : labels.mapM labelInAscii? = some ascii) : ∀ label ∈ ascii, InAscii label := by
  induction labels generalizing ascii with
  | nil =>
    rw [List.mapM_nil, Option.pure_def, Option.some_inj] at h
    simp [← h]
  | cons cs labels ih =>
    simp only [List.mapM_cons, Option.bind_eq_bind, Option.bind_eq_some_iff, Option.pure_def,
      Option.some_inj] at h
    rcases h with ⟨first, hfirst, rest, hrest, rfl⟩
    exact List.forall_mem_cons.mpr ⟨inAscii_of_labelInAscii? hfirst, ih hrest⟩

theorem inAscii_of_inAscii? {cs name : List Char} (h : inAscii? cs = some name) : InAscii name := by
  unfold inAscii? at h
  dsimp only at h
  rw [Option.bind_eq_bind, Option.bind_eq_some_iff] at h
  rcases h with ⟨ascii, hascii, h⟩
  have hpoint : InAscii ['.'] := .cons rfl .nil
  have hname := hpoint.intercalate (inAscii_of_mem_mapM hascii)
  rw [Option.ite_none_left_eq_some, Option.some_inj] at h
  rw [← h.2]
  split
  · exact hname.append hpoint
  · exact hname

end HostName

namespace Address

structure InAscii (address : Address) : Prop where
  scheme : Text.InAscii address.scheme
  userInfo : Text.InAscii address.userInfo
  host : Text.InAscii address.host
  path : Text.InAscii address.path
  query : ∀ query ∈ address.query, Text.InAscii query
  fragment : ∀ fragment ∈ address.fragment, Text.InAscii fragment

theorem isAscii_of_isPlain {exceptions : String} {c : Char} (h : isPlain exceptions c = true) :
    isAscii c = true := by
  simp only [isPlain, Bool.and_eq_true, decide_eq_true_eq] at h
  simp only [isAscii, decide_eq_true_eq]
  omega

theorem inAscii_plain (exceptions : String) (cs : List Char) :
    Text.InAscii (percentEncode (isPlain exceptions) cs) :=
  inAscii_percentEncode (fun _ hc => isAscii_of_isPlain hc) cs

theorem inAscii_map_plain (exceptions : String) (part : Option (List Char)) :
    ∀ text ∈ part.map (percentEncode (isPlain exceptions)), Text.InAscii text := by
  intro text htext
  rw [Option.mem_def, Option.map_eq_some_iff] at htext
  rcases htext with ⟨cs, _, rfl⟩
  exact inAscii_plain exceptions cs

theorem inAscii_lower {cs : List Char} (h : Text.InAscii cs) : Text.InAscii (lower cs) := by
  intro c hc
  rw [lower, List.mem_map] at hc
  rcases hc with ⟨d, hd, rfl⟩
  exact isAscii_toLower (h d hd)

theorem inAscii_of_isDotted {host : List Char} (h : NumericHost.isDotted host = true) :
    Text.InAscii host := by
  unfold NumericHost.isDotted at h
  dsimp only at h
  rw [Bool.and_eq_true, List.all_eq_true] at h
  intro c hc
  rcases isSep_or_mem_splitWhen (· == '.') hc with hpoint | ⟨part, hpart, hmem⟩
  · rw [eq_of_beq hpoint]
    rfl
  · have hoctet := h.2 part hpart
    simp only [NumericHost.isOctet, Bool.and_eq_true, List.all_eq_true] at hoctet
    exact isAscii_of_isDigit (hoctet.1.1.2 c hmem)

theorem inAscii_of_readHost {host name : List Char} (h : readHost host = .ok name)
    (hbracket : '[' ∈ host → Text.InAscii host) : Text.InAscii name := by
  unfold readHost at h
  split at h
  · split at h
    · next hdotted =>
      rw [Except.ok.injEq] at h
      rw [← h]
      exact inAscii_of_isDotted hdotted
    · contradiction
  · split at h
    · next hbrackets =>
      dsimp only at h
      split at h
      · rw [Except.ok.injEq] at h
        simp only [Bool.and_eq_true, beq_iff_eq] at hbrackets
        rw [← h]
        exact (hbracket (List.mem_of_head? hbrackets.1.1)).sublist
          ((List.dropLast_sublist _).trans (List.drop_sublist 1 host))
      · contradiction
    · split at h
      · rw [Except.ok.injEq] at h
        rw [← h]
        exact inAscii_plain _ _
      · split at h
        · next hname =>
          rw [Except.ok.injEq] at h
          rw [← h]
          exact HostName.inAscii_of_inAscii? hname
        · contradiction

theorem reverse_sublist_of_sublist {part cs : List Char} (h : part.Sublist cs.reverse) :
    part.reverse.Sublist cs := by
  rwa [← List.reverse_sublist, List.reverse_reverse]

theorem host_sublist (authority : List Char) : (authorityParts authority).2.1.Sublist authority := by
  have hrest : (authority.reverse.takeWhile (!(· == '@') ·)).reverse.Sublist authority :=
    reverse_sublist_of_sublist (List.takeWhile_sublist _)
  unfold authorityParts splitAt
  dsimp only
  split
  · exact (reverse_sublist_of_sublist (List.dropWhile_sublist _)).trans hrest
  · exact (List.takeWhile_sublist _).trans hrest

theorem inAscii_ofParts {scheme authority path : List Char} {query fragment : Option (List Char)}
    {address : Address} (h : ofParts scheme authority path query fragment = .ok address)
    (hscheme : Text.InAscii scheme) (hbracket : '[' ∈ authority → Text.InAscii authority) :
    address.InAscii := by
  unfold ofParts at h
  dsimp only at h
  rcases exists_of_bind_eq_ok h with ⟨host, hhost, h⟩
  rcases exists_of_bind_eq_ok h with ⟨portNumber, _, h⟩
  have hpart := host_sublist authority
  have hname := inAscii_of_readHost hhost fun hmem => (hbracket (hpart.subset hmem)).sublist hpart
  split at h
  · cases h
  · cases h
    exact {
      scheme := inAscii_lower hscheme
      userInfo := inAscii_plain _ _
      host := hname
      path := inAscii_plain _ _
      query := inAscii_map_plain _ query
      fragment := inAscii_map_plain _ fragment }

theorem inAscii_takeScheme (cs : List Char) : Text.InAscii (takeScheme cs).1 := by
  unfold takeScheme splitAt
  dsimp only
  split
  · intro c hc
    have hplain := List.mem_takeWhile_imp hc
    simp only [Bool.not_not, Bool.or_eq_true, beq_iff_eq] at hplain
    rcases hplain with ((halphanum | rfl) | rfl) | rfl
    · exact isAscii_of_isAlphanum halphanum
    · rfl
    · rfl
    · rfl
  · exact .nil

theorem takeScheme_sublist (cs : List Char) : (takeScheme cs).2.Sublist cs := by
  unfold takeScheme splitAt
  dsimp only
  split
  · exact (List.drop_sublist 1 _).trans (List.dropWhile_sublist _)
  · exact .refl cs

theorem authority_sublist (cs : List Char) :
    (if ['/', '/'].isPrefixOf cs then splitAt (fun c => c == '/' || c == '?' || c == '#') (cs.drop 2)
      else ([], cs)).1.Sublist cs := by
  split
  · exact (List.takeWhile_sublist _).trans (List.drop_sublist 2 cs)
  · exact List.nil_sublist cs

theorem inAscii_ofText {text : String} {address : Address} (h : ofText text = .ok address)
    (hbracket : '[' ∈ text.toList → Text.InAscii text.toList) : address.InAscii := by
  unfold ofText at h
  dsimp only at h
  split at h
  · cases h
  · split at h
    · cases h
    · have hpart := (authority_sublist _).trans (takeScheme_sublist text.toList)
      exact inAscii_ofParts h (inAscii_takeScheme _)
        fun hmem => (hbracket (hpart.subset hmem)).sublist hpart

theorem inAscii_authority {address : Address} (h : address.InAscii) : Text.InAscii address.authority := by
  unfold authority
  dsimp only
  refine (InAscii.append ?_ ?_).append ?_
  · split
    · exact .nil
    · exact h.userInfo.append (.cons rfl .nil)
  · split
    · exact .cons rfl (h.host.append (.cons rfl .nil))
    · exact h.host
  · cases address.portNumber with
    | none => exact .nil
    | some n =>
      refine .cons rfl fun c hc => ?_
      rcases Json.mem_toString hc with hdigit | rfl
      · exact isAscii_of_isDigit hdigit
      · rfl

theorem inAscii_part {mark : Char} (hmark : isAscii mark = true) {part : Option (List Char)}
    (h : ∀ text ∈ part, Text.InAscii text) : Text.InAscii ((part.map (mark :: ·)).getD []) := by
  cases part with
  | none => exact .nil
  | some text => exact .cons hmark (h text rfl)

theorem inAscii_toText {address : Address} (h : address.InAscii) : Text.InAscii address.toText.toList := by
  unfold toText
  dsimp only
  rw [String.toList_ofList]
  refine (((InAscii.append ?_ ?_).append h.path).append (inAscii_part rfl h.query)).append
    (inAscii_part rfl h.fragment)
  · split
    · exact .nil
    · exact h.scheme.append (.cons rfl .nil)
  · split
    · exact .nil
    · exact .cons rfl (.cons rfl (inAscii_authority h))

theorem inAscii_requestRoot {text root : String} (h : requestRoot text = .ok root)
    (hbracket : '[' ∈ text.toList → Text.InAscii text.toList) : Text.InAscii root.toList := by
  rcases exists_of_bind_eq_ok h with ⟨address, haddress, h⟩
  have hascii := inAscii_ofText haddress hbracket
  split at h
  · cases h
    exact inAscii_toText hascii
  · rcases exists_of_bind_eq_ok h with ⟨behind, hbehind, h⟩
    cases h
    -- The parts are put together and read once more, with a slash behind them.
    exact inAscii_toText (inAscii_ofParts hbehind hascii.scheme fun _ => inAscii_authority hascii)

example :
    (requestRoot "http://bücher.example:80/über").toOption
      =
    some "http://xn--bcher-kva.example/%C3%BCber/" := by
  decide +kernel

end Address

namespace Judge.Config

variable {config : Config}

/--
What a client sends is in ASCII, whatever script the settings are written in. Only a host in brackets is
kept as it is, and an interface that it names may be written in any script.
-/
theorem inAscii_clientUrl {url : String} (h : config.clientUrl Address.readRoot = .ok url)
    (hbracket : '[' ∈ config.baseUrl.toList → InAscii config.baseUrl.toList) :
    InAscii url.toList ∧ ∀ header ∈ config.headers, InAscii header.2.toList := by
  rcases exists_of_bind_eq_ok h with ⟨root, hroot, h⟩
  have hread : Address.requestRoot config.baseUrl = .ok root := by
    unfold Address.readRoot at hroot
    cases hread : Address.requestRoot config.baseUrl with
    | error fault =>
      rw [hread] at hroot
      cases hroot
    | ok root =>
      rw [hread] at hroot
      cases hroot
      rfl
  have hascii := Address.inAscii_requestRoot hread hbracket
  split at h
  · cases h
  · next hnone =>
    cases h
    rw [List.findSome?_eq_none_iff] at hnone
    exact ⟨hascii, fun header hheader => inAscii_of_foreignRun? (hnone header hheader)⟩

end Judge.Config

end Playback
