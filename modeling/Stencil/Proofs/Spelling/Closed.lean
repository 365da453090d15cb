import Stencil.Template.Deferral
import Stencil.Proofs.Spelling.Expansion

/-!
# Pieces that fit everywhere

Two kinds of pieces fit before every text: characters that are written with an escape wherever they
could mean something else (`Glyph.fits_ofChar`), and tokens in braces (`Token.fits_of_inBraces`). A
value can be put in with the former, and a reference kept with the latter.
-/

namespace Stencil

namespace Spelling

/-! ## Values as running text -/

/-- How a character of a value is written at the top level. -/
def Glyph.ofChar (c : Char) : Glyph :=
  if c = '$' then .dollars else if c = '\\' then .escaped '\\' else .plain c

/-- A value as running text. -/
def valuePieces (value : String) : List (Piece Token) :=
  (value.toList.map Glyph.ofChar).map .glyph

theorem Glyph.char_ofChar (c : Char) : (ofChar c).char = c := by
  unfold ofChar
  split_ifs with hdollar hback
  · exact hdollar.symm
  · exact hback.symm
  · rfl

section

variable [Pattern.Engine]

theorem Glyph.fits_ofChar (c : Char) (rest : List Char) : (ofChar c).Fits atTop rest := by
  unfold ofChar
  split_ifs with hdollar hback
  · trivial
  · exact (rfl : atTop.escapes '\\' = true)
  · exact ⟨by simp [atTop], fun h => absurd h hback, fun h => absurd h hdollar⟩

theorem fits_valuePieces {value : String} {p : Piece Token} (hp : p ∈ valuePieces value)
    (rest : List Char) : sourceWriting.Fits p rest := by
  simp only [valuePieces, List.map_map, List.mem_map] at hp
  obtain ⟨c, -, rfl⟩ := hp
  exact Glyph.fits_ofChar c rest

theorem texts_valuePieces (value : String) :
    String.ofList (sourceWriting.texts (valuePieces value)) = escapeText value := by
  unfold escapeText valuePieces Writing.texts
  rw [List.map_map, List.flatMap_map]
  congr 2
  funext c
  show (Glyph.ofChar c).text = _
  unfold Glyph.ofChar
  split_ifs <;> rfl

end

theorem expandPieces_valuePieces {m : Type → Type} [Monad m] [LawfulMonad m]
    (find : String → m String) (value : String) :
    expandPieces find (valuePieces value) = pure value := by
  have hchars : (value.toList.map Glyph.ofChar).map Glyph.char = value.toList := by
    rw [List.map_map]
    exact List.map_id'' Glyph.char_ofChar _
  rw [valuePieces, expandPieces_glyphs, hchars, String.ofList_toList]

/-! ## Tokens with braces -/

/-- The token with braces around a bare name. -/
def Token.embrace : Token → Token
  | .reference (.bare name) => .reference (.braced ⟨name, none⟩)
  | t => t

theorem Token.sound_embrace [Pattern.Engine] {t : Token} (ht : t.Sound) : t.embrace.Sound := by
  rcases t with (name | s) | ⟨s, x⟩ | ⟨name, x⟩
  · exact ⟨ht, by simp⟩
  · exact ht
  · exact ht
  · exact ht

theorem Token.inBraces_embrace (t : Token) : t.embrace.InBraces := by
  rcases t with (name | s) | ⟨s, x⟩ | ⟨name, x⟩ <;> exact trivial

theorem Token.embrace_embrace (t : Token) : t.embrace.embrace = t.embrace := by
  rcases t with (name | s) | ⟨s, x⟩ | ⟨name, x⟩ <;> rfl

theorem Token.erase_embrace (t : Token) : (t.embrace.node 0).erase = (t.node 0).erase := by
  rcases t with (name | s) | ⟨s, x⟩ | ⟨name, x⟩ <;> rfl

theorem Token.names_embrace (t : Token) : (t.embrace.node 0).names = (t.node 0).names := by
  rw [← Node.names_erase, t.erase_embrace, Node.names_erase]

theorem Token.expand_embrace {m : Type → Type} [Monad m] (find : String → m String) (t : Token) :
    (t.embrace.node 0).expand find = (t.node 0).expand find := by
  rw [← Node.expand_erase, t.erase_embrace, Node.expand_erase]

end Spelling

end Stencil
