import Antop.FromAddress
import Antop.Library.OnesComplement

/-!
# The checksums

When the option with the last hop is put into a packet, the checksum of its ICMPv6 message or UDP datagram
is computed again, behind the 32 bytes that were added.

* `cksumSumHost`, `icmpv6CksumHost`, `udpCksumHost` — the sums in words as a little-endian host reads them.
* `checksumIpv6`, `checksumUdp` — what they should return.
* **`cksum_iff`** — when they do.
* **`toNat_cksumHost`** — in network order they are the checksums of the packets `print_pkt` makes.
-/

namespace Antop

open Memory

/-! ## The functions -/

/-- The word at `mem + i`. -/
def leerPalabra (mem : ℕ → UChar) (i : ℕ) : Word := mem (i + 1) ++ mem i

/-- `*(unsigned char *) (&ret) = b`. -/
def ponerByte (ret : Word) (b : UChar) : Word := (ret &&& 0xff00#16) ||| b.setWidth 16

/-- The loop of `cksum_sum`, from word `w` on, and the odd byte, which goes where the last word was read
to. -/
def cksumBucle (addr : ℕ → Word) (ntoh : Bool) : ℕ → ℕ → Word → BitVec 32 → BitVec 32
  | 0, _, _, sum => sum
  | 1, w, ret, sum => sum + (ponerByte ret ((addr w).setWidth 8)).setWidth 32
  | len + 2, w, _, sum =>
      let ret := if ntoh then htons (addr w) else addr w
      cksumBucle addr ntoh len (w + 1) ret (sum + ret.setWidth 32)

/-- `cksum_sum`. -/
def cksumSumHost (addr : ℕ → Word) (len : ℤ) (ntoh : Bool) : BitVec 32 := cksumBucle addr ntoh len.toNat 0 0 0

/-- `cksum_sum(&val, 2, ntoh)`. -/
def cksumVal (val : Word) (ntoh : Bool) : BitVec 32 := cksumSumHost (fun _ => val) 2 ntoh

/-- The end of both functions. -/
def plegarSuma (sum : BitVec 32) : Word :=
  let sum := (sum >>> 16) + (sum &&& 0xffff#32)
  let sum := sum + (sum >>> 16)
  (~~~sum).setWidth 16

/-- `icmpv6_cksum`.  The message begins 72 bytes behind the header. -/
def icmpv6CksumHost (srcIp dstIp : In6Addr) (ipv6Header : ℕ → UChar) (icmpPayL : ℤ) (ipv6PayL : Word) : Word :=
  plegarSuma (cksumSumHost srcIp.word 16 true + cksumSumHost dstIp.word 16 true
    + cksumVal ipv6PayL false + cksumVal 0x003a#16 false
    + cksumVal (htons (leerPalabra ipv6Header 72)) false
    + cksumVal (leerPalabra ipv6Header 76) true + cksumVal (leerPalabra ipv6Header 78) true
    + cksumSumHost (fun i => leerPalabra ipv6Header (80 + 2 * i)) icmpPayL true)

/-- `udp_cksum`. -/
def udpCksumHost (srcIp dstIp : In6Addr) (ipv6Header : ℕ → UChar) (udpPayL : ℤ) (ipv6PayL : Word) : Word :=
  plegarSuma (cksumSumHost srcIp.word 16 true + cksumSumHost dstIp.word 16 true
    + cksumVal ipv6PayL false + cksumVal 0x0011#16 false
    + cksumVal (htons (leerPalabra ipv6Header 72)) false
    + cksumVal (htons (leerPalabra ipv6Header 74)) false + cksumVal (htons (leerPalabra ipv6Header 76)) false
    + cksumSumHost (fun i => leerPalabra ipv6Header (80 + 2 * i)) udpPayL true)

/-! ## What they should return -/

/-- The bytes behind the option, with zero for the checksum, which is at byte `campo` of the message. -/
def sinCksum (ipv6Header : ℕ → UChar) (campo i : ℕ) : ℕ :=
  if i = campo ∨ i = campo + 1 then 0 else (ipv6Header (72 + i)).toNat

/-- The first `len` bytes. -/
def octetosMsg (f : ℕ → ℕ) (len : ℕ) : List ℕ := (List.range len).map f

/-- The words of an address. -/
def palabrasIp (a : In6Addr) : List ℕ := (List.range 8).map fun i => (htons (a.word i)).toNat

/-- The words of the pseudo-header and the message: the addresses, the length in 32 bits and the next
header. -/
def palabrasIpv6 (srcIp dstIp : In6Addr) (nextHeader : ℕ) (msg : List ℕ) : List ℕ :=
  palabrasIp srcIp ++ palabrasIp dstIp ++ [msg.length / 65536, msg.length % 65536, 0, nextHeader]
    ++ OnesComplement.words 256 msg

/-- The ones' complement of their sum. -/
def checksumIpv6 (srcIp dstIp : In6Addr) (nextHeader : ℕ) (msg : List ℕ) : ℕ :=
  65535 - OnesComplement.sum 65536 (palabrasIpv6 srcIp dstIp nextHeader msg)

/-- For UDP a zero is replaced. -/
def checksumUdp (srcIp dstIp : In6Addr) (msg : List ℕ) : ℕ :=
  let cksum := checksumIpv6 srcIp dstIp 17 msg
  if cksum = 0 then 0xffff else cksum

/-! ## Words -/

lemma toNat_append_uchar (a b : UChar) : (a ++ b : Word).toNat = 256 * a.toNat + b.toNat := by
  rw [BitVec.toNat_append, ← Nat.shiftLeft_add_eq_or_of_lt b.isLt, Nat.shiftLeft_eq]
  omega

lemma htons_leerPalabra (mem : ℕ → UChar) (i : ℕ) : htons (leerPalabra mem i) = mem i ++ mem (i + 1) := by
  refine BitVec.eq_of_getMsbD_eq fun j hj => ?_
  rw [getMsbD_htons, leerPalabra, BitVec.getMsbD_append, BitVec.getMsbD_append, BitVec.getMsbD_append]
  split_ifs <;> first | omega | simp_all

lemma toNat_htons_leerPalabra (mem : ℕ → UChar) (i : ℕ) :
    (htons (leerPalabra mem i)).toNat = 256 * (mem i).toNat + (mem (i + 1)).toNat := by
  rw [htons_leerPalabra]
  exact toNat_append_uchar _ _

lemma ponerByte_append (a b c : UChar) : ponerByte (a ++ b : Word) c = a ++ c := by
  refine BitVec.eq_of_getLsbD_eq fun i hi => ?_
  rw [ponerByte, BitVec.getLsbD_or, BitVec.getLsbD_and, BitVec.getLsbD_append, BitVec.getLsbD_append]
  interval_cases i <;> simp

lemma setWidth_leerPalabra (mem : ℕ → UChar) (i : ℕ) : (leerPalabra mem i).setWidth 8 = mem i := by
  refine BitVec.eq_of_getLsbD_eq fun j hj => ?_
  rw [leerPalabra, BitVec.getLsbD_setWidth, BitVec.getLsbD_append, if_pos hj]
  simp [hj]

/-! ## The sums without overflow -/

/-- What `cksum_sum` adds up: `n` bytes from `i` on, where the last word it read began with `hi`. -/
def sumaOctetos (f : ℕ → ℕ) : ℕ → ℕ → ℕ → ℕ
  | 0, _, _ => 0
  | 1, i, hi => 256 * hi + f i
  | n + 2, i, _ => 256 * f i + f (i + 1) + sumaOctetos f n (i + 2) (f i)

lemma ofNat_toNat_word (w : Word) : w.setWidth 32 = BitVec.ofNat 32 w.toNat := (BitVec.ofNat_toNat 32 w).symm

lemma cksumBucle_leerPalabra (mem : ℕ → UChar) (base : ℕ) (n w : ℕ) (hi lo : UChar) (sum : BitVec 32) :
    cksumBucle (fun k => leerPalabra mem (base + 2 * k)) true n w (hi ++ lo : Word) sum
      = sum + BitVec.ofNat 32 (sumaOctetos (fun i => (mem (base + i)).toNat) n (2 * w) hi.toNat) := by
  induction n using Nat.twoStepInduction generalizing w hi lo sum with
  | zero =>
      rw [cksumBucle, sumaOctetos]
      exact (BitVec.add_zero sum).symm
  | one =>
      rw [cksumBucle, sumaOctetos, setWidth_leerPalabra, ponerByte_append, ofNat_toNat_word, toNat_append_uchar]
  | more n ih _ =>
      rw [cksumBucle, if_pos rfl, htons_leerPalabra, ih, sumaOctetos, ofNat_toNat_word, toNat_append_uchar,
        BitVec.add_assoc, ← BitVec.ofNat_add]
      rfl

lemma cksumVal_eq (val : Word) (ntoh : Bool) :
    cksumVal val ntoh = BitVec.ofNat 32 (if ntoh then htons val else val).toNat := by
  have h : cksumVal val ntoh = 0 + (if ntoh then htons val else val).setWidth 32 := rfl
  rw [h, ofNat_toNat_word]
  exact BitVec.zero_add _

lemma cksumSumHost_word (a : In6Addr) : cksumSumHost a.word 16 true = BitVec.ofNat 32 (palabrasIp a).sum := by
  have h : cksumSumHost a.word 16 true
      = ((List.range 8).map fun i => BitVec.ofNat 32 (htons (a.word i)).toNat).foldl (· + ·) 0 := by
    simp only [← ofNat_toNat_word]
    rfl
  rw [h]
  simp [palabrasIp, List.range_succ, BitVec.ofNat_add, BitVec.add_assoc]

/-- What is added up behind the option: three words of the first eight bytes, and the rest. -/
def sumaMensaje (f : ℕ → ℕ) (n : ℕ) : ℕ :=
  256 * f 0 + f 1 + (256 * f 2 + f 3) + (256 * f 4 + f 5) + (256 * f 6 + f 7) + sumaOctetos f n 8 0

/-- The plain sum. -/
def sumaTotal (srcIp dstIp : In6Addr) (nextHeader : ℕ) (f : ℕ → ℕ) (l n : ℕ) : ℕ :=
  (palabrasIp srcIp).sum + (palabrasIp dstIp).sum + l + nextHeader + sumaMensaje f n

/-- Only the bytes from `i` on are read. -/
lemma sumaOctetos_congr {f g : ℕ → ℕ} {i j : ℕ} (h : ∀ k, f (i + k) = g (j + k)) (n hi : ℕ) :
    sumaOctetos f n i hi = sumaOctetos g n j hi := by
  induction n using Nat.twoStepInduction generalizing i j hi with
  | zero => rfl
  | one =>
      have h0 : f i = g j := h 0
      rw [sumaOctetos, sumaOctetos, h0]
  | more n ih _ =>
      have h0 : f i = g j := h 0
      rw [sumaOctetos, sumaOctetos, h0, h 1, ih (i := i + 2) (j := j + 2) fun k => ?_]
      have hk := h (2 + k)
      rwa [← Nat.add_assoc, ← Nat.add_assoc] at hk

lemma cksumSumHost_payload (mem : ℕ → UChar) (len : ℤ) {campo : ℕ} (h : campo < 7) :
    cksumSumHost (fun i => leerPalabra mem (80 + 2 * i)) len true
      = BitVec.ofNat 32 (sumaOctetos (sinCksum mem campo) len.toNat 8 0) := by
  have hsuma := cksumBucle_leerPalabra mem 80 len.toNat 0 0 0 0
  have hcongr := sumaOctetos_congr (f := fun i => (mem (80 + i)).toNat) (g := sinCksum mem campo) (i := 2 * 0)
    (j := 8) (fun k => ?_) len.toNat 0
  · rw [← hcongr, cksumSumHost]
    refine Eq.trans hsuma ?_
    exact BitVec.zero_add _
  · rw [sinCksum, if_neg (by omega)]
    congr 2
    omega

/-- What both functions add up, when `x`, `y` and `z` are the three words of the header that they read. -/
lemma sumaHost_eq (srcIp dstIp : In6Addr) (mem : ℕ → UChar) (len : ℤ) (l nextHeader : Word) {campo : ℕ}
    (hc : campo < 7) {x y z : Word} (hcampo : sumaMensaje (sinCksum mem campo) len.toNat
      = x.toNat + y.toNat + z.toNat + sumaOctetos (sinCksum mem campo) len.toNat 8 0) :
    cksumSumHost srcIp.word 16 true + cksumSumHost dstIp.word 16 true + cksumVal l false
        + cksumVal nextHeader false + BitVec.ofNat 32 x.toNat + BitVec.ofNat 32 y.toNat + BitVec.ofNat 32 z.toNat
        + cksumSumHost (fun i => leerPalabra mem (80 + 2 * i)) len true
      = BitVec.ofNat 32
        (sumaTotal srcIp dstIp nextHeader.toNat (sinCksum mem campo) l.toNat len.toNat) := by
  rw [cksumSumHost_word, cksumSumHost_word, cksumSumHost_payload mem len hc, cksumVal_eq, cksumVal_eq, sumaTotal,
    hcampo]
  simp only [← BitVec.ofNat_add, Bool.false_eq_true, if_false]
  congr 1
  omega

lemma icmpv6CksumHost_eq (srcIp dstIp : In6Addr) (mem : ℕ → UChar) (len : ℤ) (l : Word) :
    icmpv6CksumHost srcIp dstIp mem len l
      = plegarSuma (BitVec.ofNat 32 (sumaTotal srcIp dstIp 58 (sinCksum mem 2) l.toNat len.toNat)) := by
  have hcampo : sumaMensaje (sinCksum mem 2) len.toNat = (htons (leerPalabra mem 72)).toNat
      + (htons (leerPalabra mem 76)).toNat + (htons (leerPalabra mem 78)).toNat
      + sumaOctetos (sinCksum mem 2) len.toNat 8 0 := by
    rw [toNat_htons_leerPalabra, toNat_htons_leerPalabra, toNat_htons_leerPalabra]
    simp [sumaMensaje, sinCksum]
  have hsuma := sumaHost_eq srcIp dstIp mem len l 0x003a#16 (by omega) hcampo
  rw [icmpv6CksumHost, cksumVal_eq (htons _), cksumVal_eq (leerPalabra _ _), cksumVal_eq (leerPalabra _ _)]
  exact congrArg plegarSuma hsuma

lemma udpCksumHost_eq (srcIp dstIp : In6Addr) (mem : ℕ → UChar) (len : ℤ) (l : Word) :
    udpCksumHost srcIp dstIp mem len l
      = plegarSuma (BitVec.ofNat 32 (sumaTotal srcIp dstIp 17 (sinCksum mem 6) l.toNat len.toNat)) := by
  have hcampo : sumaMensaje (sinCksum mem 6) len.toNat = (htons (leerPalabra mem 72)).toNat
      + (htons (leerPalabra mem 74)).toNat + (htons (leerPalabra mem 76)).toNat
      + sumaOctetos (sinCksum mem 6) len.toNat 8 0 := by
    rw [toNat_htons_leerPalabra, toNat_htons_leerPalabra, toNat_htons_leerPalabra]
    simp [sumaMensaje, sinCksum]
  have hsuma := sumaHost_eq srcIp dstIp mem len l 0x0011#16 (by omega) hcampo
  rw [udpCksumHost, cksumVal_eq (htons _), cksumVal_eq (htons _), cksumVal_eq (htons _)]
  exact congrArg plegarSuma hsuma

/-! ## Bounds -/

lemma sinCksum_lt (mem : ℕ → UChar) (campo i : ℕ) : sinCksum mem campo i < 256 := by
  rw [sinCksum]
  split_ifs
  · omega
  · exact (mem (72 + i)).isLt

lemma sumaOctetos_le {f : ℕ → ℕ} (hf : ∀ i, f i < 256) (n i hi : ℕ) (hhi : hi < 256) :
    sumaOctetos f n i hi ≤ 65535 * ((n + 1) / 2) := by
  induction n using Nat.twoStepInduction generalizing i hi with
  | zero => exact Nat.zero_le _
  | one =>
      have hi0 := hf i
      rw [sumaOctetos]
      omega
  | more n ih _ =>
      have hi0 := hf i
      have hi1 := hf (i + 1)
      have hrest := ih (i + 2) (f i) hi0
      rw [sumaOctetos]
      omega

lemma sum_le_of_lt {l : List ℕ} {b : ℕ} (h : ∀ w ∈ l, w < b) : l.sum ≤ l.length * (b - 1) := by
  have hle := List.sum_le_card_nsmul l (b - 1) fun w hw => Nat.le_sub_one_of_lt (h w hw)
  rwa [smul_eq_mul] at hle

lemma palabrasIp_lt (a : In6Addr) : ∀ w ∈ palabrasIp a, w < 65536 := by
  intro w hw
  obtain ⟨i, -, rfl⟩ := List.mem_map.mp hw
  exact (htons (a.word i)).isLt

lemma palabrasIp_le (a : In6Addr) : (palabrasIp a).sum ≤ 8 * 65535 := sum_le_of_lt (palabrasIp_lt a)

/-- The end of the functions. -/
lemma toNat_plegarSuma {s : ℕ} (h : s < 65536 * 65536) : (plegarSuma (BitVec.ofNat 32 s)).toNat
    = 65535 - OnesComplement.fold 65536 (OnesComplement.fold 65536 s) := by
  have hs : (BitVec.ofNat 32 s).toNat = s := by rw [BitVec.toNat_ofNat, Nat.mod_eq_of_lt h]
  have hand : (BitVec.ofNat 32 s &&& 0xffff#32).toNat = s % 65536 := by
    rw [BitVec.toNat_and, hs]
    exact Nat.and_two_pow_sub_one_eq_mod s 16
  have hshift (x : BitVec 32) : (x >>> 16).toNat = x.toNat / 65536 := by
    rw [BitVec.toNat_ushiftRight, Nat.shiftRight_eq_div_pow]
  simp only [plegarSuma, BitVec.toNat_setWidth, BitVec.toNat_not, BitVec.toNat_add, hshift, hand, hs,
    OnesComplement.fold]
  omega

/-! ## When the checksum is right -/

/-- The sum that a message should have added. -/
def sumaRfc (f : ℕ → ℕ) (len : ℕ) : ℕ := (OnesComplement.words 256 (octetosMsg f len)).sum

variable {srcIp dstIp : In6Addr} {f : ℕ → ℕ} {len : ℕ}

lemma sum_palabrasIpv6 (srcIp dstIp : In6Addr) (nextHeader : ℕ) (f : ℕ → ℕ) (hlen : len < 65536) :
    (palabrasIpv6 srcIp dstIp nextHeader (octetosMsg f len)).sum
      = (palabrasIp srcIp).sum + (palabrasIp dstIp).sum + len + nextHeader + sumaRfc f len := by
  have hl : (octetosMsg f len).length = len := by rw [octetosMsg, List.length_map, List.length_range]
  rw [palabrasIpv6, hl, Nat.div_eq_of_lt hlen, Nat.mod_eq_of_lt hlen]
  simp [sumaRfc]
  omega

lemma palabrasIpv6_lt (srcIp dstIp : In6Addr) {nextHeader : ℕ} (hnh : nextHeader < 65536)
    (hf : ∀ i, f i < 256) (hlen : len < 65536) :
    ∀ w ∈ palabrasIpv6 srcIp dstIp nextHeader (octetosMsg f len), w < 65536 := by
  have hl : (octetosMsg f len).length = len := by rw [octetosMsg, List.length_map, List.length_range]
  have hmsg : ∀ w ∈ OnesComplement.words 256 (octetosMsg f len), w < 65536 := by
    refine OnesComplement.words_lt fun a ha => ?_
    obtain ⟨i, -, rfl⟩ := List.mem_map.mp ha
    exact hf i
  rw [palabrasIpv6, hl]
  simp only [List.forall_mem_append, List.forall_mem_cons]
  exact ⟨⟨⟨palabrasIp_lt _, palabrasIp_lt _⟩, by omega, by omega, by omega, hnh, by simp⟩, hmsg⟩

/-- The sums do not overflow. -/
lemma sumaTotal_lt {nextHeader : ℕ} (hnh : nextHeader < 256) (hf : ∀ i, f i < 256) (l : Word) :
    sumaTotal srcIp dstIp nextHeader f l.toNat (l.toNat - 8) < 65536 * 65536 := by
  have hl := l.isLt
  have hsrc := palabrasIp_le srcIp
  have hdst := palabrasIp_le dstIp
  have hpay := sumaOctetos_le hf (l.toNat - 8) 8 0 (by omega)
  have hbytes : f 0 < 256 ∧ f 1 < 256 ∧ f 2 < 256 ∧ f 3 < 256 ∧ f 4 < 256 ∧ f 5 < 256 ∧ f 6 < 256
      ∧ f 7 < 256 :=
    ⟨hf 0, hf 1, hf 2, hf 3, hf 4, hf 5, hf 6, hf 7⟩
  rw [sumaTotal, sumaMensaje]
  omega

lemma sumaTotal_pos {nextHeader : ℕ} (hnh0 : 0 < nextHeader) (l n : ℕ) :
    0 < sumaTotal srcIp dstIp nextHeader f l n := by
  rw [sumaTotal]
  omega

/-- `0xffff` is never returned. -/
lemma plegarSuma_lt {nextHeader : ℕ} (hnh : nextHeader < 256) (hnh0 : 0 < nextHeader) (hf : ∀ i, f i < 256)
    (l : Word) :
    (plegarSuma (BitVec.ofNat 32 (sumaTotal srcIp dstIp nextHeader f l.toNat (l.toNat - 8)))).toNat < 65535 := by
  have htotal : 0 < sumaTotal srcIp dstIp nextHeader f l.toNat (l.toNat - 8) := sumaTotal_pos hnh0 _ _
  have hpos := OnesComplement.fold_pos (B := 65536) (OnesComplement.fold_pos (B := 65536) htotal)
  rw [toNat_plegarSuma (sumaTotal_lt hnh hf l)]
  omega

/-- **The checksum is right** exactly when the message adds what it should, modulo `0xffff`. -/
lemma plegarSuma_eq_iff {nextHeader : ℕ} (hnh : nextHeader < 256) (hnh0 : 0 < nextHeader)
    (hf : ∀ i, f i < 256) (l : Word) :
    (plegarSuma (BitVec.ofNat 32 (sumaTotal srcIp dstIp nextHeader f l.toNat (l.toNat - 8)))).toNat
        = checksumIpv6 srcIp dstIp nextHeader (octetosMsg f l.toNat)
      ↔ sumaMensaje f (l.toNat - 8) ≡ sumaRfc f l.toNat [MOD 65535] := by
  have hwords := palabrasIpv6_lt srcIp dstIp (by omega : nextHeader < 65536) hf l.isLt
  have hsum := sum_palabrasIpv6 srcIp dstIp nextHeader f l.isLt
  have hlt : sumaTotal srcIp dstIp nextHeader f l.toNat (l.toNat - 8) < 65536 * 65536 := sumaTotal_lt hnh hf l
  have hfold := OnesComplement.fold_fold_lt (by norm_num) hlt
  have hsumlt := OnesComplement.sum_lt (B := 65536) (by norm_num) hwords
  have hcancel (a b : ℕ) (ha : a < 65536) (hb : b < 65536) : 65535 - a = 65535 - b ↔ a = b := by omega
  rw [toNat_plegarSuma hlt, checksumIpv6, hcancel _ _ hfold hsumlt,
    OnesComplement.fold_fold_eq_sum_iff (by norm_num) (sumaTotal_pos hnh0 _ _) hlt hwords (by omega), hsum, sumaTotal]
  exact ⟨Nat.ModEq.add_left_cancel' _, Nat.ModEq.add_left _⟩

/-! ## The odd byte and the short messages -/

lemma map_range_two (f : ℕ → ℕ) (n i : ℕ) : ((List.range (n + 2)).map fun k => f (i + k))
    = f i :: f (i + 1) :: (List.range n).map fun k => f (i + 2 + k) := by
  rw [List.range_succ_eq_map, List.range_succ_eq_map, List.map_cons, List.map_map, List.map_cons, List.map_map]
  refine congrArg (f i :: ·) (congrArg (f (i + 1) :: ·) (List.map_congr_left fun k _ => ?_))
  simp only [Function.comp_apply]
  congr 1
  omega

/-- Whole words are added as they should be. -/
lemma sumaOctetos_even (f : ℕ → ℕ) (k i hi : ℕ) : sumaOctetos f (2 * k) i hi
    = (OnesComplement.words 256 ((List.range (2 * k)).map fun j => f (i + j))).sum := by
  induction k generalizing i hi with
  | zero => rfl
  | succ k ih => rw [Nat.mul_succ, sumaOctetos, map_range_two, OnesComplement.words, List.sum_cons, ih]

/-- An odd byte goes to the wrong half of the word, and the first byte of the word before it is added
again. -/
lemma sumaOctetos_odd (f : ℕ → ℕ) (k i hi : ℕ) : sumaOctetos f (2 * k + 1) i hi + 255 * f (i + 2 * k)
    = (OnesComplement.words 256 ((List.range (2 * k + 1)).map fun j => f (i + j))).sum
      + 256 * if k = 0 then hi else f (i + (2 * k - 2)) := by
  induction k generalizing i hi with
  | zero =>
      simp [sumaOctetos, OnesComplement.words]
      omega
  | succ k ih =>
      have hlast : i + 2 * (k + 1) = i + 2 + 2 * k := by omega
      have hprev : (if k = 0 then f i else f (i + 2 + (2 * k - 2)))
          = if k + 1 = 0 then hi else f (i + (2 * (k + 1) - 2)) := by
        rw [if_neg (Nat.succ_ne_zero k)]
        split_ifs with hk
        · rw [hk]
          rfl
        · congr 1
          omega
      rw [show 2 * (k + 1) + 1 = 2 * k + 1 + 2 by omega, sumaOctetos, map_range_two, OnesComplement.words,
        List.sum_cons, hlast, Nat.add_assoc, ih, hprev]
      omega

/-- What byte `i` adds. -/
def peso (f : ℕ → ℕ) (i : ℕ) : ℕ := if i % 2 = 0 then 256 * f i else f i

/-- The bytes that a short message does not have add nothing, and an odd byte is zero, like the first byte
of the word before it, when that is behind the first eight bytes. -/
structure SinSobras (f : ℕ → ℕ) (len : ℕ) : Prop where
  corto : 65535 ∣ ∑ i ∈ Finset.Ico len 8, peso f i
  impar : 8 < len → len % 2 = 1 → f (len - 1) = 0
  anterior : 8 + 2 < len → len % 2 = 1 → f (len - 3) = 0

lemma octetosMsg_add_eight (f : ℕ → ℕ) (n : ℕ) : octetosMsg f (n + 8) = f 0 :: f 1 :: f 2 :: f 3 :: f 4 :: f 5
    :: f 6 :: f 7 :: (List.range n).map fun k => f (8 + k) := by
  have h : octetosMsg f (n + 8) = (List.range (n + 8)).map fun k => f (0 + k) :=
    List.map_congr_left fun k _ => by rw [Nat.zero_add]
  rw [h, map_range_two, map_range_two, map_range_two, map_range_two]

/-- Of a message with a header the rest may be added wrongly. -/
lemma sumaRfc_add (f : ℕ → ℕ) (n : ℕ) : sumaRfc f (n + 8) + sumaOctetos f n 8 0
    = sumaMensaje f n + (OnesComplement.words 256 ((List.range n).map fun k => f (8 + k))).sum := by
  rw [sumaRfc, octetosMsg_add_eight, sumaMensaje]
  simp only [OnesComplement.words, List.sum_cons]
  omega

/-- To a short message the bytes behind it are added. -/
lemma sumaMensaje_short (f : ℕ → ℕ) (hlen : len < 8) :
    sumaMensaje f 0 = sumaRfc f len + ∑ i ∈ Finset.Ico len 8, peso f i := by
  interval_cases len <;>
    simp [sumaMensaje, sumaOctetos, sumaRfc, octetosMsg, peso, List.range_succ, OnesComplement.words,
      Finset.sum_Ico_succ_top, Finset.sum_range_succ] <;> omega

/-- A message of `len` bytes adds what it should. -/
lemma sumaMensaje_modEq_iff (hf : ∀ i, f i < 256) (len : ℕ) :
    sumaMensaje f (len - 8) ≡ sumaRfc f len [MOD 65535] ↔ SinSobras f len := by
  by_cases hlen : len < 8
  · rw [Nat.sub_eq_zero_of_le (by omega), sumaMensaje_short f hlen, Nat.ModEq.comm,
      Nat.modEq_iff_dvd' (Nat.le_add_right _ _), Nat.add_sub_cancel_left]
    exact ⟨fun h => ⟨h, fun _ => by omega, fun _ => by omega⟩, SinSobras.corto⟩
  · obtain ⟨n, rfl⟩ : ∃ n, len = n + 8 := ⟨len - 8, by omega⟩
    have hcorto : 65535 ∣ ∑ i ∈ Finset.Ico (n + 8) 8, peso f i := by simp
    have hadd := sumaRfc_add f n
    rw [Nat.add_sub_cancel]
    obtain ⟨k, rfl | rfl⟩ := Nat.even_or_odd' n
    · rw [sumaOctetos_even] at hadd
      refine iff_of_true ?_ ⟨hcorto, fun _ _ => by omega, fun _ _ => by omega⟩
      rw [Nat.add_right_cancel hadd]
    · have hodd := sumaOctetos_odd f k 8 0
      have hb := hf (8 + 2 * k)
      have hprev := hf (8 + (2 * k - 2))
      have hlast : 2 * k + 1 + 8 - 1 = 8 + 2 * k := by omega
      generalize hp : (if k = 0 then 0 else f (8 + (2 * k - 2))) = p at hodd
      have hp256 : p < 256 := by
        rw [← hp]
        split_ifs <;> omega
      have hsum : sumaMensaje f (2 * k + 1) + 255 * f (8 + 2 * k) = sumaRfc f (2 * k + 1 + 8) + 256 * p := by omega
      constructor
      · intro h
        have hmod := h.add_right (255 * f (8 + 2 * k))
        rw [hsum] at hmod
        have heq := (Nat.ModEq.add_left_cancel' _ hmod).eq_of_lt_of_lt (by omega) (by omega)
        have hp0 : p = 0 := by omega
        refine ⟨hcorto, fun _ _ => ?_, fun hk _ => ?_⟩
        · rw [hlast]
          omega
        · rwa [if_neg (by omega), hp0, show 8 + (2 * k - 2) = 2 * k + 1 + 8 - 3 by omega] at hp
      · intro h
        have hb0 := h.impar (by omega) (by omega)
        have hp0 : p = 0 := by
          rw [← hp]
          split_ifs with hk
          · rfl
          · rw [show 8 + (2 * k - 2) = 2 * k + 1 + 8 - 3 by omega]
            exact h.anterior (by omega) (by omega)
        rw [hlast] at hb0
        rw [hb0, hp0] at hsum
        rw [Nat.add_right_cancel hsum]

/-! ## Both checksums -/

/-- **When they are right.**  That of ICMPv6 is for the messages without leftovers, that of UDP for those
whose words do not add up to a multiple of `0xffff`. -/
theorem cksum_iff (srcIp dstIp : In6Addr) (ipv6Header : ℕ → UChar) (l : Word) :
    ((icmpv6CksumHost srcIp dstIp ipv6Header (l.toNat - 8) l).toNat
        = checksumIpv6 srcIp dstIp 58 (octetosMsg (sinCksum ipv6Header 2) l.toNat)
      ↔ SinSobras (sinCksum ipv6Header 2) l.toNat)
    ∧ ((udpCksumHost srcIp dstIp ipv6Header (l.toNat - 8) l).toNat
        = checksumUdp srcIp dstIp (octetosMsg (sinCksum ipv6Header 6) l.toNat)
      ↔ SinSobras (sinCksum ipv6Header 6) l.toNat
        ∧ ¬ 65535 ∣ (palabrasIpv6 srcIp dstIp 17 (octetosMsg (sinCksum ipv6Header 6) l.toNat)).sum) := by
  have hlen : ((l.toNat : ℤ) - 8).toNat = l.toNat - 8 := by omega
  have hf2 := sinCksum_lt ipv6Header 2
  have hf6 := sinCksum_lt ipv6Header 6
  constructor
  · rw [icmpv6CksumHost_eq, hlen, plegarSuma_eq_iff (by norm_num) (by norm_num) hf2]
    exact sumaMensaje_modEq_iff hf2 l.toNat
  · rw [udpCksumHost_eq, hlen, ← sumaMensaje_modEq_iff hf6 l.toNat]
    have hwords := palabrasIpv6_lt srcIp dstIp (by norm_num : 17 < 65536) hf6 l.isLt
    have hsum := sum_palabrasIpv6 srcIp dstIp 17 (sinCksum ipv6Header 6) l.isLt
    have hpos : 0 < (palabrasIpv6 srcIp dstIp 17 (octetosMsg (sinCksum ipv6Header 6) l.toNat)).sum := by omega
    have hcero := OnesComplement.sum_eq_pred_iff (B := 65536) (by norm_num) hwords hpos
    have hsumlt := OnesComplement.sum_lt (B := 65536) (by norm_num) hwords
    rw [checksumUdp]
    by_cases hdvd : 65535 ∣ (palabrasIpv6 srcIp dstIp 17 (octetosMsg (sinCksum ipv6Header 6) l.toNat)).sum
    · have hzero : checksumIpv6 srcIp dstIp 17 (octetosMsg (sinCksum ipv6Header 6) l.toNat) = 0 := by
        rw [checksumIpv6, hcero.mpr hdvd]
      refine iff_of_false (fun h => ?_) fun h => h.2 hdvd
      rw [hzero, if_pos rfl] at h
      exact (plegarSuma_lt (by norm_num) (by norm_num) hf6 l).ne h
    · have hne : checksumIpv6 srcIp dstIp 17 (octetosMsg (sinCksum ipv6Header 6) l.toNat) ≠ 0 := by
        rw [checksumIpv6]
        intro h
        exact hdvd (hcero.mp (by omega))
      rw [if_neg hne, plegarSuma_eq_iff (by norm_num) (by norm_num) hf6]
      exact (and_iff_left hdvd).symm

/-- Nine bytes, the last one not zero. -/
private def octetoSuelto (i : ℕ) : UChar := if i = 80 then 1 else 0

/-- The odd byte is taken for the second one of its word. -/
theorem cksum_merges_odd_byte : ¬ ∀ (srcIp dstIp : In6Addr) (ipv6Header : ℕ → UChar) (l : Word), 8 ≤ l.toNat →
    (icmpv6CksumHost srcIp dstIp ipv6Header (l.toNat - 8) l).toNat
        = checksumIpv6 srcIp dstIp 58 (octetosMsg (sinCksum ipv6Header 2) l.toNat)
      ∧ (udpCksumHost srcIp dstIp ipv6Header (l.toNat - 8) l).toNat
        = checksumUdp srcIp dstIp (octetosMsg (sinCksum ipv6Header 6) l.toNat) := by
  intro h
  have hicmp := (h .zero .zero octetoSuelto 9 (by decide)).1
  exact absurd hicmp (by decide +kernel)

/-! ## In network order -/

/-- The bytes of a word in memory, and the number they are on the wire. -/
lemma toNat_htons (w : Word) : (htons w).toNat = (w.setWidth 8).toNat * 256 + ((w >>> 8).setWidth 8).toNat := by
  have hw : leerPalabra (fun j => if j = 0 then w.setWidth 8 else (w >>> 8).setWidth 8) 0 = w := by
    refine BitVec.eq_of_getLsbD_eq fun i hi => ?_
    rw [leerPalabra, BitVec.getLsbD_append]
    interval_cases i <;> simp
  have h := toNat_htons_leerPalabra (fun j => if j = 0 then w.setWidth 8 else (w >>> 8).setWidth 8) 0
  rw [hw, if_pos rfl, if_neg (by omega)] at h
  rw [h, Nat.mul_comm]

/-- `cksum_sum` on an address. -/
lemma cksumSum_bytes (a : In6Addr) : cksumSum a.bytes 0 = (palabrasIp a).sum := by
  have hgen (l : List (Fin 8)) (ret : ℕ) : cksumSum (l.flatMap fun i =>
      [(a.s6Addr16 i).setWidth 8, (a.s6Addr16 i >>> 8).setWidth 8]) ret
        = (l.map fun i => (htons (a.s6Addr16 i)).toNat).sum := by
    induction l generalizing ret with
    | nil => rfl
    | cons i l ih =>
        rw [List.flatMap_cons, List.cons_append, List.singleton_append, cksumSum, ih, List.map_cons,
          List.sum_cons, toNat_htons]
  exact hgen (List.finRange 8) 0

lemma slice_succ {data : List UChar} {i : ℕ} (h : i < data.length) (n : ℕ) :
    slice data i (n + 1) = byte data i :: slice data (i + 1) n := by
  rw [slice, List.drop_eq_getElem_cons h, List.take_succ_cons, slice, byte, List.getD_eq_getElem?_getD,
    List.getElem?_eq_getElem h, Option.getD_some]

/-- `cksum_sum` on bytes of a packet. -/
lemma cksumSum_slice (data : List UChar) (n i ret : ℕ) (h : i + n ≤ data.length) :
    cksumSum (slice data i n) ret = sumaOctetos (fun j => (byte data j).toNat) n i (ret / 256) := by
  induction n using Nat.twoStepInduction generalizing i ret with
  | zero => simp [slice, cksumSum, sumaOctetos]
  | one =>
      have hnil : slice data (i + 1) 0 = [] := by rw [slice, List.take_zero]
      rw [slice_succ (by omega), hnil, cksumSum, sumaOctetos, Nat.mul_comm]
  | more n ih _ =>
      have hbyte := (byte data (i + 1)).isLt
      have hdiv : ((byte data i).toNat * 256 + (byte data (i + 1)).toNat) / 256 = (byte data i).toNat := by omega
      rw [slice_succ (by omega), slice_succ (by omega), cksumSum, ih _ _ (by omega), sumaOctetos, hdiv,
        Nat.mul_comm]

lemma plegarSuma_eq_cksumFin {s : ℕ} (h : s < 65536 * 65536) :
    (plegarSuma (BitVec.ofNat 32 s)).toNat = cksumFin s := by
  rw [toNat_plegarSuma h]
  simp only [OnesComplement.fold, cksumFin]
  omega

/-- What both functions of `print_pkt` add up. -/
lemma cksum_eq {data : List UChar} {srcIp dstIp : In6Addr} (hsrc : slice data 8 16 = srcIp.bytes)
    (hdst : slice data 24 16 = dstIp.bytes) (l : Word) {n campo : ℕ} (hlen : 80 + n ≤ data.length) (hc : campo < 7)
    {campos : List ℕ} (hcampos : (campos.map (campo16 data)).sum + sumaOctetos (sinCksum (byte data) campo) n 8 0
      = sumaMensaje (sinCksum (byte data) campo) n) (protocolo : ℕ) :
    cksum protocolo campos data n l.toNat
      = cksumFin (sumaTotal srcIp dstIp protocolo (sinCksum (byte data) campo) l.toNat n) := by
  have hpay : cksumSum (slice data 80 n) 0 = sumaOctetos (sinCksum (byte data) campo) n 8 0 := by
    rw [cksumSum_slice data _ _ _ hlen]
    refine sumaOctetos_congr (fun k => ?_) _ _
    rw [sinCksum, if_neg (by omega)]
    congr 2
    omega
  rw [cksum, hsrc, hdst, cksumSum_bytes, cksumSum_bytes, hpay, Nat.mod_eq_of_lt l.isLt, sumaTotal, ← hcampos,
    Nat.add_assoc _ (campos.map (campo16 data)).sum]

/-- **Both models agree** on a packet in memory. -/
theorem toNat_cksumHost {data : List UChar} {srcIp dstIp : In6Addr} (hsrc : slice data 8 16 = srcIp.bytes)
    (hdst : slice data 24 16 = dstIp.bytes) (l : Word) (hlen : 72 + l.toNat ≤ data.length) (h8 : 8 ≤ l.toNat) :
    (icmpv6CksumHost srcIp dstIp (byte data) (l.toNat - 8) l).toNat = icmpv6Cksum data (l.toNat - 8) l.toNat
      ∧ (udpCksumHost srcIp dstIp (byte data) (l.toNat - 8) l).toNat = udpCksum data (l.toNat - 8) l.toNat := by
  have hn : ((l.toNat : ℤ) - 8).toNat = l.toNat - 8 := by omega
  have hlen80 : 80 + (l.toNat - 8) ≤ data.length := by omega
  constructor
  · have hcampos : ([72, 76, 78].map (campo16 data)).sum + sumaOctetos (sinCksum (byte data) 2) (l.toNat - 8) 8 0
        = sumaMensaje (sinCksum (byte data) 2) (l.toNat - 8) := by
      simp [sumaMensaje, sinCksum, campo16]
      omega
    rw [icmpv6CksumHost_eq, hn, plegarSuma_eq_cksumFin (sumaTotal_lt (by norm_num) (sinCksum_lt _ _) l)]
    exact (cksum_eq hsrc hdst l hlen80 (by norm_num) hcampos 58).symm
  · have hcampos : ([72, 74, 76].map (campo16 data)).sum + sumaOctetos (sinCksum (byte data) 6) (l.toNat - 8) 8 0
        = sumaMensaje (sinCksum (byte data) 6) (l.toNat - 8) := by
      simp [sumaMensaje, sinCksum, campo16]
      omega
    rw [udpCksumHost_eq, hn, plegarSuma_eq_cksumFin (sumaTotal_lt (by norm_num) (sinCksum_lt _ _) l)]
    exact (cksum_eq hsrc hdst l hlen80 (by norm_num) hcampos 17).symm

end Antop
