namespace TextWalk.Normal

def soleExtenders : List (Nat × Nat) :=
  -- Halfwidth sound marks, and vowels and trailing consonants of Hangul that stand alone.
  [(0x3133, 0x3133), (0x3135, 0x3136), (0x313A, 0x313F), (0x314F, 0x3163), (0xFF9E, 0xFF9F),
   (0xFFA3, 0xFFA3), (0xFFA5, 0xFFA6), (0xFFAA, 0xFFAF), (0xFFC2, 0xFFC7), (0xFFCA, 0xFFCF),
   (0xFFD2, 0xFFD7), (0xFFDA, 0xFFDC)]

/-- The ranges of characters whose compatible spelling is a base and then extenders, by the number
of these: spacing forms of marks, and letters that are shown in one place with their marks. -/
def spelledExtenders : List (Nat × List (Nat × Nat)) :=
  [(1, [(0x00A8, 0x00A8), (0x00AF, 0x00AF), (0x00B4, 0x00B4), (0x00B8, 0x00B8), (0x01C4, 0x01C6),
     (0x02D8, 0x02DD), (0x037A, 0x037A), (0x0384, 0x0384), (0x1FBD, 0x1FBD), (0x1FBF, 0x1FC0),
     (0x1FFE, 0x1FFE), (0x2017, 0x2017), (0x203E, 0x203E), (0x309B, 0x309C), (0x326E, 0x327E),
     (0x3304, 0x3304), (0x3307, 0x3307), (0x3310, 0x3310), (0x331E, 0x331E), (0x3321, 0x3321),
     (0x3332, 0x3332), (0x333B, 0x333B), (0x3340, 0x3340), (0x334B, 0x334B), (0x334E, 0x334E),
     (0xFBA4, 0xFBA5), (0xFBB0, 0xFBB1), (0xFC5B, 0xFC5D), (0xFC90, 0xFC90), (0xFCD9, 0xFCD9),
     (0xFD3C, 0xFD3D), (0xFE49, 0xFE4C), (0xFE70, 0xFE72), (0xFE74, 0xFE74), (0xFE76, 0xFE7F),
     (0xFE81, 0xFE8C), (0xFEF5, 0xFEFA), (0xFFE3, 0xFFE3), (0x1F213, 0x1F213)]),
   (2, [(0x0F77, 0x0F77), (0x0F79, 0x0F79), (0xFC5E, 0xFC63), (0xFCF2, 0xFCF4)])]

end TextWalk.Normal
