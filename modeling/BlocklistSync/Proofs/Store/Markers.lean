import BlocklistSync.Proofs.Number.Shortest
import BlocklistSync.Proofs.Store.TableHistory
import BlocklistSync.Proofs.Text.Decoding
import BlocklistSync.Proofs.Text.Quoting

/-! What the fingerprint shows of the greatest stamp. Within a storage class the decimal digits of a
number and the hexadecimal digits of a blob tell the value from all others. A text is read
leniently, and it does so as well just if nothing in it had to be replaced: stray bytes of any kind,
and the character that replaces them, look the same. -/
namespace BlocklistSync

namespace Cell

/-- What a database can hold: its reals are doubles. -/
def IsHeld : Cell → Prop
  | .real x => x.IsDouble
  | _ => True

/-- A cell of which the marker shows everything: no byte of a text was replaced in it. -/
def IsShownInFull : Cell → Prop
  | .text bytes => Text.Utf8.replacement ∉ (Text.Utf8.decodeLenient bytes).toList
  | _ => True

variable {a b : Cell}

theorem hexByte_injective {x y : UInt8} (h : (hexByte x).toList = (hexByte y).toList) : x = y := by
  rw [hexByte, hexByte, String.toList_ofList, String.toList_ofList] at h
  obtain ⟨hhigh, hlow⟩ := List.cons.inj h
  have hx := x.toNat_lt
  have hy := y.toNat_lt
  have hhigh := Text.Quoted.digitChar_injective _ (by omega) _ (by omega) hhigh
  have hlow := Text.Quoted.digitChar_injective _ (by omega) _ (by omega)
    (List.singleton_inj.mp hlow)
  exact UInt8.toNat_inj.mp (by omega)

theorem hexBytes_injective {bytes bytes' : Bytes}
    (h : bytes.flatMap (fun b => (hexByte b).toList) =
      bytes'.flatMap (fun b => (hexByte b).toList)) :
    bytes = bytes' := by
  have hpair (b : UInt8) (rest : List Char) : (hexByte b).toList ++ rest ≠ [] := by
    rw [hexByte, String.toList_ofList]
    exact List.cons_ne_nil _ _
  induction bytes generalizing bytes' with
  | nil =>
    cases bytes' with
    | nil => rfl
    | cons y bytes' => exact absurd h.symm (hpair y _)
  | cons x bytes ih =>
    cases bytes' with
    | nil => exact absurd h (hpair x _)
    | cons y bytes' =>
      have hlength : (hexByte x).toList.length = (hexByte y).toList.length := by simp [hexByte]
      obtain ⟨hfirst, hrest⟩ := List.append_inj h hlength
      rw [hexByte_injective hfirst, ih hrest]

theorem toList_join_hexBytes (bytes : Bytes) :
    (String.join (bytes.map hexByte)).toList = bytes.flatMap fun b => (hexByte b).toList := by
  rw [String.toList_join, List.flatMap_map]

theorem marker_eq_none_iff : a.marker = none ↔ a = .null := by
  cases a <;> simp [marker]

/-- No other value of the class has the same marker. -/
theorem eq_of_marker_eq (ha : a.IsHeld) (hb : b.IsHeld) (hclass : b.className = a.className)
    (hfull : a.IsShownInFull) (h : b.marker = a.marker) : b = a := by
  cases a <;> cases b <;> simp [className] at hclass
  case null.null => rfl
  case integer.integer i j => rw [eq_of_marker_integer h]
  case real.real x y =>
    exact congrArg real
      (Number.Binary64.toText_injective hb ha (Option.some.inj h))
  case text.text bytes bytes' =>
    have hsame := Option.some.inj h
    have hbytes := Text.Utf8.encode_decodeLenient hfull
    have hbytes' : Text.Utf8.encode (Text.Utf8.decodeLenient bytes') = bytes' :=
      Text.Utf8.encode_decodeLenient (by rw [hsame]; exact hfull)
    rw [← hbytes, ← hbytes', hsame]
  case blob.blob bytes bytes' =>
    have hsame := congrArg String.toList (Option.some.inj h)
    rw [toList_join_hexBytes, toList_join_hexBytes] at hsame
    exact congrArg blob (hexBytes_injective hsame)

theorem isShownInFull_iff (ha : a.IsHeld) : a.IsShownInFull ↔
    ∀ b : Cell, b.IsHeld → b.className = a.className → b.marker = a.marker → b = a := by
  constructor
  · exact fun hfull b hb hclass h => eq_of_marker_eq ha hb hclass hfull h
  · intro hunique
    cases a with
    | text bytes =>
      intro hmem
      obtain ⟨other, hne, hsame⟩ := Text.Utf8.exists_ne_decodeLenient hmem
      exact hne (Cell.text.inj (hunique (.text other) trivial rfl (congrArg some hsame)))
    | null | integer | real | blob => trivial

end Cell

namespace DatabaseStore

/-- The store's next question is put to a table of `count` rows, and `newest` is the greatest of
their stamps. -/
def FindsNewest (s : DatabaseStore) (tree : FileTree) (count : ℕ) (newest : Cell) : Prop :=
  ∃ table col, s.Sees tree table ∧ Query.column table Query.fingerprintSql "updated_at" 21 =
    .ok col ∧
    table.rows.length = count ∧ Cell.maximum (table.rows.map col.cell) = newest

variable {s : DatabaseStore} {tree : FileTree} {count : ℕ} {newest : Cell}

theorem FindsNewest.fetchFingerprint (h : s.FindsNewest tree count newest) :
    (s.fetchFingerprint tree).2 = .ok ⟨count, newest.marker⟩ := by
  obtain ⟨table, col, hsees, hcol, rfl, rfl⟩ := h
  exact hsees.fetchFingerprint (by rw [Query.fingerprint, hcol]; rfl)

/-- A greatest stamp that is no null is never shown as one. It is told from all others of its
storage class by what the fingerprint shows of it just if it is shown in full; then a change of it
within the class is always a change of the fingerprint, and of the row count as well. -/
theorem newest_told_apart (h : newest.IsHeld) :
    (newest.marker = none ↔ newest = .null) ∧
      (newest.IsShownInFull ↔
        ∀ other : Cell, other.IsHeld → other.className = newest.className →
          other.marker = newest.marker →
          other = newest) ∧
      (newest.IsShownInFull →
        ∀ (s t : DatabaseStore) (before after : FileTree) (count count' : ℕ) (other : Cell),
        other.IsHeld → other.className = newest.className → s.FindsNewest before count newest →
          t.FindsNewest after count' other → ∃ f g, (s.fetchFingerprint before).2 = .ok f ∧
            (t.fetchFingerprint after).2 = .ok g ∧ (g = f ↔ count' = count ∧ other = newest)) := by
  refine ⟨Cell.marker_eq_none_iff, Cell.isShownInFull_iff h, ?_⟩
  intro hfull s t before after count count' other hother hclass hbefore hafter
  refine ⟨_, _, hbefore.fetchFingerprint, hafter.fetchFingerprint, ?_⟩
  rw [Fingerprint.mk.injEq]
  refine and_congr_right fun _ => ⟨Cell.eq_of_marker_eq h hother hclass hfull, ?_⟩
  rintro rfl
  rfl

section

def markedTable (stamp : Cell) : Table :=
  blankTable.insert [.integer 1, .ofString "a@x.com", .integer 0, .integer 0, stamp]

theorem markedTable_findsNewest {stamp : Cell} (h : stamp ≠ .null) :
    connected.FindsNewest (treeOf (markedTable stamp)) 1 stamp := by
  have hname : sameName (markedTable stamp).name Query.tableName :=
    (by decide +kernel : sameName Query.tableName Query.tableName)
  refine ⟨markedTable stamp, ⟨4, "updated_at"⟩, connected_sees hname, rfl, rfl, ?_⟩
  cases stamp with
  | null => exact absurd rfl h
  | integer | real | text | blob => rfl

/-- A stamp with half a second, and the next double. -/
def halfSecond : Number.Binary64 := .finite false (3429115201 * 2 ^ 21) (-22)
def nextDouble : Number.Binary64 := .finite false (3429115201 * 2 ^ 21 + 1) (-22)

theorem newest_told_apart_of_nextDouble :
    ∃ f g, (connected.fetchFingerprint (treeOf (markedTable (.real halfSecond)))).2 = .ok f ∧
      (connected.fetchFingerprint (treeOf (markedTable (.real nextDouble)))).2 = .ok g ∧ g ≠ f := by
  have hheld : (Cell.real halfSecond).IsHeld := ⟨by decide, by decide, by decide, .inr (by decide)⟩
  have hheld' : (Cell.real nextDouble).IsHeld := ⟨by decide, by decide, by decide, .inr (by decide)⟩
  obtain ⟨-, -, htold⟩ := newest_told_apart hheld
  obtain ⟨f, g, hf, hg, hfg⟩ := htold trivial connected connected _ _ 1 1 _ hheld' rfl
    (markedTable_findsNewest nofun) (markedTable_findsNewest nofun)
  exact ⟨f, g, hf, hg, fun heq => absurd (hfg.mp heq).2 (by decide)⟩

/-- A stamp with a stray byte, and the one that has the character in its place by which stray bytes
are replaced. -/
def strayStamp : Cell := .text [0xFF, 0x61]
def replacedStamp : Cell := .ofString (String.ofList [Text.Utf8.replacement, 'a'])

/-- The two stamps are not the same, but the fingerprint is. -/
theorem exists_change_not_shown :
    connected.FindsNewest (treeOf (markedTable strayStamp)) 1 strayStamp ∧
      connected.FindsNewest (treeOf (markedTable replacedStamp)) 1 replacedStamp ∧
      strayStamp ≠ replacedStamp ∧ strayStamp.className = replacedStamp.className ∧
      strayStamp.marker = replacedStamp.marker ∧
      ∃ f, (connected.fetchFingerprint (treeOf (markedTable strayStamp))).2 = .ok f ∧
        (connected.fetchFingerprint (treeOf (markedTable replacedStamp))).2 = .ok f := by
  have hbefore : connected.FindsNewest (treeOf (markedTable strayStamp)) 1 strayStamp :=
    markedTable_findsNewest nofun
  have hafter : connected.FindsNewest (treeOf (markedTable replacedStamp)) 1 replacedStamp :=
    markedTable_findsNewest nofun
  have hmarker : strayStamp.marker = replacedStamp.marker := by decide +kernel
  exact ⟨hbefore, hafter, by decide +kernel, rfl, hmarker, _, hbefore.fetchFingerprint,
    hmarker ▸ hafter.fetchFingerprint⟩

end

end DatabaseStore

end BlocklistSync
