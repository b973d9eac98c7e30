import RemoteConfig.Proofs.Url.Domain
import RemoteConfig.Url.Host

/-!
# Hosts that are read back

* `Host.IsCanonical` holds of every host that is read for a scheme with hosts
  (`readHost_isCanonical`).
* `readIpv4_text` and `readIpv6_text` read addresses back from their text.
* `readHost_text` does so for every canonical host.
-/

namespace RemoteConfig.Url

/-- A host as it is read for the schemes that have hosts. -/
def Host.IsCanonical : Host → Prop
  | name s => s ≠ "" ∧ Domain.isSettled s.toList = true ∧ endsInNumber s.toList = false
  | ipv4 a => a < 0x100000000
  | ipv6 pieces => pieces.length = 8 ∧ ∀ p ∈ pieces, p < 0x10000

/-! ## Numbers of all pieces -/

section Numbers

variable {α β : Type} {f : α → Option β} {xs : List α} {ys : List β}

theorem mapM_cons_eq_some_iff {x : α} :
    (x :: xs).mapM f = some ys ↔ ∃ y zs, f x = some y ∧ xs.mapM f = some zs ∧ ys = y :: zs := by
  simp only [List.mapM_cons, Option.bind_eq_bind, Option.bind_eq_some_iff, Option.pure_def,
    Option.some.injEq]
  grind

theorem length_of_mapM_eq_some (h : xs.mapM f = some ys) : ys.length = xs.length := by
  induction xs generalizing ys with
  | nil => simp_all
  | cons x xs ih =>
    obtain ⟨y, zs, -, hzs, rfl⟩ := mapM_cons_eq_some_iff.1 h
    simp [ih hzs]

theorem forall_mem_of_mapM_eq_some {p : β → Prop} (hp : ∀ x y, f x = some y → p y)
    (h : xs.mapM f = some ys) : ∀ y ∈ ys, p y := by
  induction xs generalizing ys with
  | nil => simp_all
  | cons x xs ih =>
    obtain ⟨y, zs, hy, hzs, rfl⟩ := mapM_cons_eq_some_iff.1 h
    exact List.forall_mem_cons.2 ⟨hp x y hy, ih hzs⟩

theorem mapM_map_eq_some {g : β → α} (h : ∀ y ∈ ys, f (g y) = some y) :
    (ys.map g).mapM f = some ys := by
  induction ys with
  | nil => rfl
  | cons y ys ih =>
    obtain ⟨hy, hys⟩ := List.forall_mem_cons.1 h
    exact mapM_cons_eq_some_iff.2 ⟨y, ys, hy, ih hys, rfl⟩

end Numbers

/-! ## IPv4 -/

/-- Bytes denote a number of as many bytes. -/
theorem foldl_bytes_lt {ns : List Nat} (h : ∀ n ∈ ns, n < 256) (acc : Nat) :
    ns.foldl (fun acc n => acc * 256 + n) acc < (acc + 1) * Nat.pow 256 ns.length := by
  induction ns generalizing acc with
  | nil => exact Nat.lt_of_lt_of_eq (Nat.lt_succ_self acc) (Nat.mul_one _).symm
  | cons n ns ih =>
    obtain ⟨hn, hns⟩ := List.forall_mem_cons.1 h
    have htail := ih hns (acc * 256 + n)
    rw [List.foldl_cons, List.length_cons]
    calc ns.foldl (fun acc n => acc * 256 + n) (acc * 256 + n)
        < (acc * 256 + n + 1) * Nat.pow 256 ns.length := htail
      _ ≤ ((acc + 1) * 256) * Nat.pow 256 ns.length := Nat.mul_le_mul_right _ (by omega)
      _ = (acc + 1) * (Nat.pow 256 ns.length * 256) := by rw [Nat.mul_assoc, Nat.mul_comm 256]

theorem ipv4OfNumbers?_lt {ns : List Nat} {a : Nat} (hlength : ns.length ≤ 4)
    (h : ipv4OfNumbers? ns = some a) : a < 0x100000000 := by
  unfold ipv4OfNumbers? at h
  split at h
  · cases h
  · rename_i last heads hreverse
    have hheads : heads.length ≤ 4 := by
      have hlengths := congrArg List.length hreverse
      rw [List.length_reverse, List.length_cons] at hlengths
      omega
    simp only [Option.ite_none_right_eq_some, Bool.and_eq_true, decide_eq_true_eq,
      List.all_eq_true, Option.some.injEq] at h
    obtain ⟨⟨hlast, hbytes⟩, rfl⟩ := h
    have hreversed : ∀ n ∈ heads.reverse, n < 256 := fun n hn => hbytes n (List.mem_reverse.1 hn)
    have hfold := foldl_bytes_lt hreversed 0
    rw [List.length_reverse, Nat.zero_add, Nat.one_mul] at hfold
    have hpow : Nat.pow 256 (heads.length + (4 - heads.length)) =
        Nat.pow 256 heads.length * Nat.pow 256 (4 - heads.length) := Nat.pow_add 256 _ _
    rw [Nat.add_sub_cancel' hheads] at hpow
    generalize heads.reverse.foldl (fun acc n => acc * 256 + n) 0 = front at hfold ⊢
    calc front * Nat.pow 256 (4 - heads.length) + last
        < front * Nat.pow 256 (4 - heads.length) + Nat.pow 256 (4 - heads.length) :=
          Nat.add_lt_add_left hlast _
      _ = (front + 1) * Nat.pow 256 (4 - heads.length) := by rw [Nat.add_mul, Nat.one_mul]
      _ ≤ Nat.pow 256 heads.length * Nat.pow 256 (4 - heads.length) :=
          Nat.mul_le_mul_right _ hfold
      _ = 0x100000000 := hpow.symm

theorem readIpv4_isCanonical {cs : List Char} {host : Host} (h : readIpv4 cs = .ok host) :
    host.IsCanonical := by
  unfold readIpv4 at h
  simp only at h
  split at h
  · cases h
  · rename_i hlength
    split at h
    · rename_i a ha
      cases h
      obtain ⟨ns, hns, ha⟩ := Option.bind_eq_some_iff.1 ha
      have hcount := length_of_mapM_eq_some hns
      exact ipv4OfNumbers?_lt (by omega) ha
    · cases h

/-- The four numbers of an address. -/
def ipv4Bytes (a : Nat) : List Nat :=
  [a / 0x1000000 % 256, a / 0x10000 % 256, a / 0x100 % 256, a % 256]

theorem ipv4Number?_toDigits {n : Nat} (h : n < 256) :
    ipv4Number? (Nat.toDigits 10 n) = some n := by
  revert n
  decide +kernel

theorem toList_ipv4Text (a : Nat) :
    (ipv4Text a).toList = ['.'].intercalate ((ipv4Bytes a).map (Nat.toDigits 10)) := by
  simp [ipv4Text, ipv4Bytes, Decimal.text]

theorem pieces_ipv4Text (a : Nat) :
    Text.pieces '.' (ipv4Text a).toList = (ipv4Bytes a).map (Nat.toDigits 10) := by
  rw [toList_ipv4Text, Text.pieces_intercalate (by simp [ipv4Bytes])]
  exact List.forall_mem_map.2 fun n _ hdot =>
    absurd (Decimal.isDigit_of_mem_toDigits hdot) (by decide)

theorem ipv4OfNumbers?_ipv4Bytes {a : Nat} (h : a < 0x100000000) :
    ipv4OfNumbers? (ipv4Bytes a) = some a := by
  have hbyte (n : Nat) : n % 256 < 256 := Nat.mod_lt n (by decide)
  simp only [ipv4OfNumbers?, ipv4Bytes, List.reverse_cons, List.reverse_nil, List.nil_append,
    List.cons_append, List.length_cons, List.length_nil, List.all_cons, List.all_nil, hbyte,
    List.foldl_cons, List.foldl_nil, decide_true, Bool.and_true]
  simp only [Nat.reduceAdd, Nat.reduceSub, Nat.pow_eq, Nat.reducePow, if_true]
  congr 1
  omega

theorem readIpv4_text {a : Nat} (h : a < 0x100000000) :
    readIpv4 (ipv4Text a).toList = .ok (.ipv4 a) := by
  have hlast : ((ipv4Bytes a).map (Nat.toDigits 10)).getLast? ≠ some [] := by
    simp [ipv4Bytes, Nat.toDigits_ne_nil]
  have hnumbers : ((ipv4Bytes a).map (Nat.toDigits 10)).mapM ipv4Number? = some (ipv4Bytes a) :=
    mapM_map_eq_some fun n hn => ipv4Number?_toDigits <| by
      simp only [ipv4Bytes, List.mem_cons, List.not_mem_nil, or_false] at hn
      rcases hn with rfl | rfl | rfl | rfl <;> exact Nat.mod_lt _ (by decide)
  have hpieces : dottedPieces (ipv4Text a).toList = (ipv4Bytes a).map (Nat.toDigits 10) := by
    rw [dottedPieces, pieces_ipv4Text]
    exact if_neg hlast
  simp only [readIpv4, hpieces, hnumbers, Option.bind_some, ipv4OfNumbers?_ipv4Bytes h]
  exact if_neg (by simp [ipv4Bytes])

theorem endsInNumber_ipv4Text (a : Nat) : endsInNumber (ipv4Text a).toList = true := by
  have hlast : ((ipv4Bytes a).map (Nat.toDigits 10)).getLast? = some (Nat.toDigits 10 (a % 256)) :=
    rfl
  have hdigits : (Nat.toDigits 10 (a % 256)).all Decimal.isDigit = true :=
    List.all_eq_true.2 fun _ => Decimal.isDigit_of_mem_toDigits
  unfold endsInNumber
  rw [pieces_ipv4Text]
  split
  · rename_i hpieces
    exact absurd (congrArg List.length hpieces) (by simp [ipv4Bytes])
  · simp only [hlast, Option.some.injEq, Nat.toDigits_ne_nil, if_false]
    simp [hdigits, Nat.toDigits_ne_nil]

/-- An address holds digits and dots. -/
theorem of_mem_ipv4Text {a : Nat} {c : Char} (h : c ∈ (ipv4Text a).toList) :
    c = '.' ∨ Decimal.isDigit c = true := by
  obtain hdot | ⟨p, hp, hc⟩ := Text.mem_pieces '.' h
  · exact Or.inl hdot
  · rw [pieces_ipv4Text] at hp
    obtain ⟨n, -, rfl⟩ := List.mem_map.1 hp
    exact Or.inr (Decimal.isDigit_of_mem_toDigits hc)

/-! ## IPv6 -/

/-- Digits denote a number of as many digits. -/
theorem valueFrom?_lt {base acc n : Nat} {cs : List Char}
    (h : Radix.valueFrom? base acc cs = some n) : n < (acc + 1) * Nat.pow base cs.length := by
  induction cs generalizing acc with
  | nil =>
    cases h
    exact Nat.lt_of_lt_of_eq (Nat.lt_succ_self _) (Nat.mul_one _).symm
  | cons c cs ih =>
    unfold Radix.valueFrom? at h
    split at h
    · rename_i d hd
      have hlt : d < base := by
        simpa using (Option.filter_eq_some_iff.1 hd).2
      rw [List.length_cons]
      calc n < (acc * base + d + 1) * Nat.pow base cs.length := ih h
        _ ≤ ((acc + 1) * base) * Nat.pow base cs.length :=
          Nat.mul_le_mul_right _ (by rw [Nat.add_mul]; omega)
        _ = (acc + 1) * (Nat.pow base cs.length * base) := by
          rw [Nat.mul_assoc, Nat.mul_comm base]
    · cases h

theorem piece?_lt {cs : List Char} {n : Nat} (h : piece? cs = some n) : n < 0x10000 := by
  unfold piece? at h
  split at h
  · cases h
  · rename_i hlength
    have hle : cs.length ≤ 4 := by
      simp only [Bool.or_eq_true, decide_eq_true_eq, not_or, Nat.not_lt] at hlength
      exact hlength.2
    have hpow : Nat.pow 16 cs.length ≤ Nat.pow 16 4 := Nat.pow_le_pow_right (by decide) hle
    calc n < (0 + 1) * Nat.pow 16 cs.length := valueFrom?_lt h
      _ ≤ (0 + 1) * Nat.pow 16 4 := Nat.mul_le_mul_left _ hpow

theorem byte?_lt {cs : List Char} {n : Nat} (h : byte? cs = some n) : n < 256 := by
  unfold byte? at h
  split at h
  · cases h
  · cases h
    decide
  · cases h
  · split at h
    · simp only [Option.ite_none_right_eq_some, Option.some.injEq] at h
      exact h.2 ▸ h.1
    · cases h

theorem dottedPair?_lt {cs : List Char} {ns : List Nat} (h : dottedPair? cs = some ns) :
    ∀ n ∈ ns, n < 0x10000 := by
  unfold dottedPair? at h
  split at h
  · rename_i a b c d hbytes
    cases h
    have hlt := forall_mem_of_mapM_eq_some (fun _ _ => byte?_lt) hbytes
    simp only [List.forall_mem_cons] at hlt ⊢
    exact ⟨by omega, by omega, by simp⟩
  · cases h

theorem pieceNumbers?_lt {final : Bool} {ps : List (List Char)} {ns : List Nat}
    (h : pieceNumbers? final ps = some ns) : ∀ n ∈ ns, n < 0x10000 := by
  fun_induction pieceNumbers? final ps generalizing ns with
  | case1 =>
    cases h
    simp
  | case2 p n hn =>
    cases h
    simpa using piece?_lt hn
  | case3 p hnone hfinal => exact dottedPair?_lt h
  | case4 => cases h
  | case5 p ps hps ih =>
    simp only [Option.bind_eq_bind, Option.bind_eq_some_iff] at h
    obtain ⟨n, hn, ms, hms, h⟩ := h
    cases h
    exact List.forall_mem_cons.2 ⟨piece?_lt hn, ih hms⟩

theorem readIpv6_isCanonical {cs : List Char} {host : Host} (h : readIpv6 cs = .ok host) :
    host.IsCanonical := by
  unfold readIpv6 at h
  simp only at h
  split at h
  · rename_i ns hns
    cases h
    split at hns
    · split at hns
      · rename_i ns' hnumbers
        simp only [Option.ite_none_right_eq_some, Option.some.injEq] at hns
        obtain ⟨hlength, rfl⟩ := hns
        exact ⟨hlength, pieceNumbers?_lt hnumbers⟩
      · cases hns
    · split at hns
      · rename_i ls rs hls hrs
        simp only [Option.ite_none_right_eq_some, Option.some.injEq] at hns
        obtain ⟨hlength, rfl⟩ := hns
        refine ⟨by simp; omega, fun n hn => ?_⟩
        simp only [List.mem_append, List.mem_replicate] at hn
        rcases hn with (hn | ⟨-, rfl⟩) | hn
        · exact pieceNumbers?_lt hls n hn
        · decide
        · exact pieceNumbers?_lt hrs n hn
      · cases hns
  · cases h

/-! ### Pieces with colons between them -/

/-- Pieces as they are written, with colons between them. -/
def piecesText (ps : List Nat) : List Char :=
  [':'].intercalate (ps.map (Nat.toDigits 16))

theorem hexValue?_of_mem_toDigits {n : Nat} {c : Char} (h : c ∈ Nat.toDigits 16 n) :
    (Radix.hexValue? c).isSome := by
  have hall {acc n : Nat} {cs : List Char} (hn : Radix.valueFrom? 16 acc cs = some n) :
      ∀ c ∈ cs, (Radix.hexValue? c).isSome := by
    induction cs generalizing acc with
    | nil => simp
    | cons c cs ih =>
      unfold Radix.valueFrom? at hn
      split at hn
      · rename_i d hd
        rw [Radix.digit?_sixteen] at hd
        exact List.forall_mem_cons.2 ⟨by simp [hd], ih hn⟩
      · cases hn
  exact hall (Radix.value?_toDigits (by decide) (by decide) n) c h

theorem colon_not_mem_toDigits (n : Nat) : ':' ∉ Nat.toDigits 16 n := fun h =>
  absurd (hexValue?_of_mem_toDigits h) (by decide)

theorem piecesText_cons (p : Nat) (ps : List Nat) :
    piecesText (p :: ps) = Nat.toDigits 16 p ++ ps.flatMap fun q => ':' :: Nat.toDigits 16 q := by
  rw [piecesText, List.map_cons, Text.intercalate_cons, List.flatMap_map]

theorem sidePieces_piecesText (ps : List Nat) :
    sidePieces (piecesText ps) = ps.map (Nat.toDigits 16) := by
  unfold sidePieces
  cases ps with
  | nil => rfl
  | cons p ps =>
    rw [if_neg, piecesText, Text.pieces_intercalate (by simp)]
    · exact List.forall_mem_map.2 fun q _ => colon_not_mem_toDigits q
    · simp [piecesText_cons, Nat.toDigits_ne_nil]

theorem piece?_toDigits {n : Nat} (h : n < 0x10000) : piece? (Nat.toDigits 16 n) = some n := by
  have hlength : (Nat.toDigits 16 n).length ≤ 4 :=
    (Nat.length_toDigits_le_iff (by decide) (by decide)).2 h
  unfold piece?
  rw [if_neg]
  · exact Radix.value?_toDigits (by decide) (by decide) n
  · simp [Nat.toDigits_ne_nil, hlength]

theorem pieceNumbers?_toDigits (final : Bool) {ps : List Nat} (h : ∀ p ∈ ps, p < 0x10000) :
    pieceNumbers? final (ps.map (Nat.toDigits 16)) = some ps := by
  induction ps with
  | nil => rfl
  | cons p ps ih =>
    obtain ⟨hp, hps⟩ := List.forall_mem_cons.1 h
    cases ps with
    | nil => simp [pieceNumbers?, piece?_toDigits hp]
    | cons q ps =>
      have htail := ih hps
      simp only [List.map_cons] at htail ⊢
      simp [pieceNumbers?, piece?_toDigits hp, htail]

/-! ### Double colons -/

theorem splitDoubleColon_cons {c : Char} {cs : List Char} (h : c = ':' → cs.head? ≠ some ':') :
    splitDoubleColon (c :: cs) = (splitDoubleColon cs).map fun (l, r) => (c :: l, r) := by
  rw [splitDoubleColon]
  rintro rest rfl rfl
  exact h rfl rfl

theorem splitDoubleColon_append {p : List Char} (hp : ':' ∉ p) (cs : List Char) :
    splitDoubleColon (p ++ cs) = (splitDoubleColon cs).map fun (l, r) => (p ++ l, r) := by
  induction p with
  | nil => simp
  | cons c p ih =>
    have hc := List.ne_of_not_mem_cons hp
    rw [List.cons_append, splitDoubleColon_cons fun h => absurd h.symm hc,
      ih (List.not_mem_of_not_mem_cons hp), Option.map_map]
    rfl

/-- There is no double colon among pieces with colons between them. -/
theorem splitDoubleColon_flatMap (ps : List Nat) (cs : List Char) :
    splitDoubleColon ((ps.flatMap fun q => ':' :: Nat.toDigits 16 q) ++ cs) =
      (splitDoubleColon cs).map fun (l, r) =>
        ((ps.flatMap fun q => ':' :: Nat.toDigits 16 q) ++ l, r) := by
  induction ps with
  | nil => simp
  | cons p ps ih =>
    have hp := colon_not_mem_toDigits p
    obtain ⟨d, ds, hds⟩ := List.exists_cons_of_ne_nil (Nat.toDigits_ne_nil (n := p) (b := 16))
    have hd : ':' ≠ d := List.ne_of_not_mem_cons (hds ▸ hp)
    rw [List.flatMap_cons, List.append_assoc, List.cons_append,
      splitDoubleColon_cons (fun _ => by simp [hds, hd.symm]), splitDoubleColon_append hp, ih,
      Option.map_map, Option.map_map]
    congr 1
    funext lr
    simp

theorem splitDoubleColon_piecesText (ps : List Nat) (cs : List Char) :
    splitDoubleColon (piecesText ps ++ cs) =
      (splitDoubleColon cs).map fun (l, r) => (piecesText ps ++ l, r) := by
  cases ps with
  | nil => simp [piecesText]
  | cons p ps =>
    rw [piecesText_cons, List.append_assoc, splitDoubleColon_append (colon_not_mem_toDigits p),
      splitDoubleColon_flatMap, Option.map_map]
    congr 1
    funext lr
    simp

/-- The run of zeros that is left out is one. -/
theorem longestRun_spec (place : Nat) {start n : Nat} {ps : List Nat}
    (h : longestRun place ps = (start, n)) (hn : 0 < n) :
    ∃ before after, ps = before ++ List.replicate n 0 ++ after ∧ start = place + before.length := by
  induction ps generalizing place with
  | nil =>
    cases h
    exact absurd hn (Nat.lt_irrefl 0)
  | cons p ps ih =>
    unfold longestRun at h
    simp only at h
    split at h
    · cases h
      refine ⟨[], (p :: ps).dropWhile (· = 0), ?_, rfl⟩
      have hzeros : (p :: ps).takeWhile (· = 0) = List.replicate (zeroRun (p :: ps)) 0 :=
        List.eq_replicate_iff.2 ⟨rfl, fun q hq => by
          simpa using List.all_eq_true.1 List.all_takeWhile q hq⟩
      rw [List.nil_append, ← hzeros, List.takeWhile_append_dropWhile]
    · obtain ⟨before, after, hps, hstart⟩ := ih (place + 1) h
      exact ⟨p :: before, after, by rw [hps]; rfl, by rw [hstart, List.length_cons]; omega⟩

theorem toList_intercalate_hexText (ps : List Nat) :
    (":".intercalate (ps.map hexText)).toList = piecesText ps := by
  have hdigits : String.toList ∘ hexText = Nat.toDigits 16 := by
    funext n
    simp [hexText]
  rw [String.toList_intercalate, List.map_map, hdigits]
  rfl

/-- The text of an address: all pieces, or those around a run of zeros. -/
theorem ipv6Text_cases (ps : List Nat) :
    (ipv6Text ps).toList = piecesText ps ∨
      ∃ before n after, 2 ≤ n ∧ ps = before ++ List.replicate n 0 ++ after ∧
        (ipv6Text ps).toList = piecesText before ++ ':' :: ':' :: piecesText after := by
  unfold ipv6Text
  rcases hrun : longestRun 0 ps with ⟨start, n⟩
  simp only
  split
  · rename_i hn
    obtain ⟨before, after, rfl, rfl⟩ := longestRun_spec 0 hrun (by omega)
    refine Or.inr ⟨before, n, after, hn, rfl, ?_⟩
    have htake : (before ++ List.replicate n 0 ++ after).take (0 + before.length) = before := by
      rw [Nat.zero_add, List.append_assoc, List.take_left]
    have hdrop : (before ++ List.replicate n 0 ++ after).drop (0 + before.length + n) = after := by
      rw [Nat.zero_add]
      exact List.drop_left' (by simp)
    rw [htake, hdrop, String.toList_append, String.toList_append, toList_intercalate_hexText,
      toList_intercalate_hexText, List.append_assoc]
    rfl
  · exact Or.inl (toList_intercalate_hexText ps)

theorem readIpv6_text {ps : List Nat} (hlength : ps.length = 8) (h : ∀ p ∈ ps, p < 0x10000) :
    readIpv6 (ipv6Text ps).toList = .ok (.ipv6 ps) := by
  unfold readIpv6
  rcases ipv6Text_cases ps with htext | ⟨before, n, after, hn, rfl, htext⟩
  · have hne : ps.map (Nat.toDigits 16) ≠ [] := by
      rintro hnil
      simp [List.map_eq_nil_iff.1 hnil] at hlength
    have hsplit : splitDoubleColon (piecesText ps) = none := by
      simpa [splitDoubleColon] using splitDoubleColon_piecesText ps []
    have hpieces : Text.pieces ':' (piecesText ps) = ps.map (Nat.toDigits 16) :=
      Text.pieces_intercalate hne (List.forall_mem_map.2 fun q _ => colon_not_mem_toDigits q)
    rw [htext, hsplit]
    simp only [hpieces, pieceNumbers?_toDigits true h, if_pos hlength]
  · simp only [List.forall_mem_append] at h
    obtain ⟨⟨hbefore, -⟩, hafter⟩ := h
    have hsplit : splitDoubleColon (piecesText before ++ ':' :: ':' :: piecesText after) =
        some (piecesText before, piecesText after) := by
      rw [splitDoubleColon_piecesText, splitDoubleColon]
      simp
    simp only [List.length_append, List.length_replicate] at hlength
    rw [htext, hsplit]
    simp only [sidePieces_piecesText, pieceNumbers?_toDigits _ hbefore,
      pieceNumbers?_toDigits _ hafter]
    rw [if_pos (by omega), show 8 - before.length - after.length = n by omega]

/-- An address holds hexadecimal digits and colons. -/
theorem of_mem_ipv6Text {ps : List Nat} {c : Char} (h : c ∈ (ipv6Text ps).toList) :
    c = ':' ∨ (Radix.hexValue? c).isSome := by
  have hpieces {ps : List Nat} (hc : c ∈ piecesText ps) :
      c = ':' ∨ (Radix.hexValue? c).isSome := by
    cases ps with
    | nil => simp [piecesText] at hc
    | cons p ps =>
      rw [piecesText_cons, List.mem_append, List.mem_flatMap] at hc
      rcases hc with hc | ⟨q, -, hc⟩
      · exact Or.inr (hexValue?_of_mem_toDigits hc)
      · rcases List.mem_cons.1 hc with rfl | hc
        · exact Or.inl rfl
        · exact Or.inr (hexValue?_of_mem_toDigits hc)
  rcases ipv6Text_cases ps with htext | ⟨before, n, after, -, -, htext⟩
  · exact hpieces (htext ▸ h)
  · rw [htext, List.mem_append, List.mem_cons, List.mem_cons] at h
    rcases h with h | rfl | rfl | h
    · exact hpieces h
    · exact Or.inl rfl
    · exact Or.inl rfl
    · exact hpieces h

/-! ## All hosts -/

theorem readHost_isCanonical {cs : List Char} {host : Host} (h : readHost cs = .ok host) :
    host.IsCanonical := by
  unfold readHost bracketed at h
  split at h
  · split at h
    · exact readIpv6_isCanonical h
    · cases h
  · simp only at h
    split at h
    · cases h
    · cases h
    · rename_i ds hempty hds
      split at h
      · exact readIpv4_isCanonical h
      · rename_i hnumber
        cases h
        refine ⟨fun hnil => hempty ?_, ?_, ?_⟩
        · simpa using hnil
        · simpa using Domain.isSettled_of_toAscii? hds
        · simpa using hnumber

/-- The characters of a host that stands before a path. -/
structure IsHostChar (c : Char) : Prop where
  visible : IsVisible c
  allowed : c ∉ ['/', '?', '#', '\\', '@']

theorem isHostChar_of_isPlain {c : Char} (h : Domain.IsPlain c) : IsHostChar c := by
  have hallowed := h.allowed
  simp only [Domain.isDenied, Bool.or_eq_false_iff, decide_eq_false_iff_not, Nat.not_le,
    List.mem_cons, not_or] at hallowed
  obtain ⟨⟨hcontrol, hdelete⟩, hmem⟩ := hallowed
  have hascii : c.toNat < 0x80 := h.ascii
  exact ⟨⟨hcontrol, by omega⟩, by simp [hmem]⟩

/-- The characters of addresses and ports. -/
def addressChars : List Char :=
  "0123456789abcdefABCDEF".toList ++ [':', '[', ']', '.']

theorem isHostChar_of_mem {c : Char} (h : c ∈ addressChars) : IsHostChar c := by
  have hall : (addressChars.all fun c =>
      0x20 < c.toNat && c.toNat < 0x7F && c ∉ ['/', '?', '#', '\\', '@']) = true := by decide
  have hc := List.all_eq_true.1 hall c h
  simp only [Bool.and_eq_true, decide_eq_true_eq] at hc
  exact ⟨hc.1, hc.2⟩

theorem isHostChar_of_hexValue? {c : Char} (h : (Radix.hexValue? c).isSome) : IsHostChar c :=
  isHostChar_of_mem (List.mem_append_left _ (Radix.mem_digits h))

theorem isHostChar_of_isDigit {c : Char} (h : Decimal.isDigit c = true) : IsHostChar c := by
  have hdecimal : addressChars =
      "0123456789".toList ++ "abcdefABCDEF".toList ++ [':', '[', ']', '.'] := by decide
  refine isHostChar_of_mem ?_
  rw [hdecimal]
  exact List.mem_append_left _ (List.mem_append_left _ (Decimal.mem_digits h))

theorem Host.toList_text_ipv6 (ps : List Nat) :
    (Host.ipv6 ps).text.toList = '[' :: ((ipv6Text ps).toList ++ [']']) := by
  simp [Host.text]

namespace Host.IsCanonical

variable {host : Host}

theorem isHostChar (h : host.IsCanonical) : ∀ c ∈ host.text.toList, IsHostChar c := by
  intro c hc
  cases host with
  | name s => exact isHostChar_of_isPlain (Domain.isPlain_of_isSettled h.2.1 c hc)
  | ipv4 a =>
    rcases of_mem_ipv4Text hc with rfl | hdigit
    · exact isHostChar_of_mem (by decide)
    · exact isHostChar_of_isDigit hdigit
  | ipv6 ps =>
    simp only [Host.toList_text_ipv6, List.mem_cons, List.mem_append, List.not_mem_nil,
      or_false] at hc
    rcases hc with rfl | hc | rfl
    · exact isHostChar_of_mem (by decide)
    · rcases of_mem_ipv6Text hc with rfl | hdigit
      · exact isHostChar_of_mem (by decide)
      · exact isHostChar_of_hexValue? hdigit
    · exact isHostChar_of_mem (by decide)

theorem text_ne_nil (h : host.IsCanonical) : host.text.toList ≠ [] := by
  cases host with
  | name s => simpa [Host.text] using h.1
  | ipv4 a => simp [Host.text, toList_ipv4Text, ipv4Bytes]
  | ipv6 ps => simp [Host.toList_text_ipv6]

/-- A host is read back from its text. -/
theorem readHost_text (h : host.IsCanonical) : readHost host.text.toList = .ok host := by
  -- A settled name is not in brackets, and it is its own form.
  have hsettled {cs : List Char} (hne : cs ≠ []) (hcs : Domain.isSettled cs = true) :
      readHost cs =
        if endsInNumber cs then readIpv4 cs else .ok (.name (String.ofList cs)) := by
    unfold readHost bracketed
    split
    · exact absurd (Domain.isPlain_of_isSettled hcs '[' List.mem_cons_self).allowed (by decide)
    · simp only [Domain.toAscii?_decode hcs]
  cases host with
  | name s =>
    obtain ⟨hne, hcs, hnumber⟩ := h
    have hlist : s.toList ≠ [] := by simpa using hne
    rw [Host.text, hsettled hlist hcs, hnumber, String.ofList_toList]
    rfl
  | ipv4 a =>
    have hne : (ipv4Text a).toList ≠ [] := (text_ne_nil h : (Host.ipv4 a).text.toList ≠ [])
    rw [Host.text, hsettled hne (Domain.isSettled_of_digits fun _ => of_mem_ipv4Text),
      endsInNumber_ipv4Text, if_pos rfl]
    exact readIpv4_text h
  | ipv6 ps =>
    rw [Host.toList_text_ipv6, readHost, bracketed, List.getLast?_concat, if_pos rfl,
      List.dropLast_concat]
    exact readIpv6_text h.1 h.2

end Host.IsCanonical

end RemoteConfig.Url
