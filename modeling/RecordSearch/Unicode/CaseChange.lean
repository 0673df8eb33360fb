import RecordSearch.Unicode.Run

/-!
# Characters that change with case

The characters of Unicode 16 that case conversion or case folding changes.  Two tables hold those
that lower case and upper case change; title case and folding differ from these by short lists.
-/

namespace RecordSearch.Unicode

def lowered : List Run :=
  [
    ⟨0x0041, 0x005A, 1⟩, ⟨0x00C0, 0x00D6, 1⟩, ⟨0x00D8, 0x00DE, 1⟩, ⟨0x0100, 0x0136, 2⟩,
    ⟨0x0139, 0x0147, 2⟩, ⟨0x014A, 0x0176, 2⟩, ⟨0x0178, 0x0179, 1⟩, ⟨0x017B, 0x017B, 1⟩,
    ⟨0x017D, 0x017D, 1⟩, ⟨0x0181, 0x0182, 1⟩, ⟨0x0184, 0x0184, 1⟩, ⟨0x0186, 0x0187, 1⟩,
    ⟨0x0189, 0x018B, 1⟩, ⟨0x018E, 0x0191, 1⟩, ⟨0x0193, 0x0194, 1⟩, ⟨0x0196, 0x0198, 1⟩,
    ⟨0x019C, 0x019D, 1⟩, ⟨0x019F, 0x01A0, 1⟩, ⟨0x01A2, 0x01A2, 1⟩, ⟨0x01A4, 0x01A4, 1⟩,
    ⟨0x01A6, 0x01A7, 1⟩, ⟨0x01A9, 0x01A9, 1⟩, ⟨0x01AC, 0x01AC, 1⟩, ⟨0x01AE, 0x01AF, 1⟩,
    ⟨0x01B1, 0x01B3, 1⟩, ⟨0x01B5, 0x01B5, 1⟩, ⟨0x01B7, 0x01B8, 1⟩, ⟨0x01BC, 0x01BC, 1⟩,
    ⟨0x01C4, 0x01C5, 1⟩, ⟨0x01C7, 0x01C8, 1⟩, ⟨0x01CA, 0x01CB, 1⟩, ⟨0x01CD, 0x01DB, 2⟩,
    ⟨0x01DE, 0x01EE, 2⟩, ⟨0x01F1, 0x01F2, 1⟩, ⟨0x01F4, 0x01F4, 1⟩, ⟨0x01F6, 0x01F8, 1⟩,
    ⟨0x01FA, 0x0232, 2⟩, ⟨0x023A, 0x023B, 1⟩, ⟨0x023D, 0x023E, 1⟩, ⟨0x0241, 0x0241, 1⟩,
    ⟨0x0243, 0x0246, 1⟩, ⟨0x0248, 0x024E, 2⟩, ⟨0x0370, 0x0370, 1⟩, ⟨0x0372, 0x0372, 1⟩,
    ⟨0x0376, 0x0376, 1⟩, ⟨0x037F, 0x037F, 1⟩, ⟨0x0386, 0x0386, 1⟩, ⟨0x0388, 0x038A, 1⟩,
    ⟨0x038C, 0x038C, 1⟩, ⟨0x038E, 0x038F, 1⟩, ⟨0x0391, 0x03A1, 1⟩, ⟨0x03A3, 0x03AB, 1⟩,
    ⟨0x03CF, 0x03CF, 1⟩, ⟨0x03D8, 0x03EE, 2⟩, ⟨0x03F4, 0x03F4, 1⟩, ⟨0x03F7, 0x03F7, 1⟩,
    ⟨0x03F9, 0x03FA, 1⟩, ⟨0x03FD, 0x042F, 1⟩, ⟨0x0460, 0x0480, 2⟩, ⟨0x048A, 0x04BE, 2⟩,
    ⟨0x04C0, 0x04C1, 1⟩, ⟨0x04C3, 0x04CD, 2⟩, ⟨0x04D0, 0x052E, 2⟩, ⟨0x0531, 0x0556, 1⟩,
    ⟨0x10A0, 0x10C5, 1⟩, ⟨0x10C7, 0x10C7, 1⟩, ⟨0x10CD, 0x10CD, 1⟩, ⟨0x13A0, 0x13F5, 1⟩,
    ⟨0x1C89, 0x1C89, 1⟩, ⟨0x1C90, 0x1CBA, 1⟩, ⟨0x1CBD, 0x1CBF, 1⟩, ⟨0x1E00, 0x1E94, 2⟩,
    ⟨0x1E9E, 0x1EFE, 2⟩, ⟨0x1F08, 0x1F0F, 1⟩, ⟨0x1F18, 0x1F1D, 1⟩, ⟨0x1F28, 0x1F2F, 1⟩,
    ⟨0x1F38, 0x1F3F, 1⟩, ⟨0x1F48, 0x1F4D, 1⟩, ⟨0x1F59, 0x1F5F, 2⟩, ⟨0x1F68, 0x1F6F, 1⟩,
    ⟨0x1F88, 0x1F8F, 1⟩, ⟨0x1F98, 0x1F9F, 1⟩, ⟨0x1FA8, 0x1FAF, 1⟩, ⟨0x1FB8, 0x1FBC, 1⟩,
    ⟨0x1FC8, 0x1FCC, 1⟩, ⟨0x1FD8, 0x1FDB, 1⟩, ⟨0x1FE8, 0x1FEC, 1⟩, ⟨0x1FF8, 0x1FFC, 1⟩,
    ⟨0x2126, 0x2126, 1⟩, ⟨0x212A, 0x212B, 1⟩, ⟨0x2132, 0x2132, 1⟩, ⟨0x2160, 0x216F, 1⟩,
    ⟨0x2183, 0x2183, 1⟩, ⟨0x24B6, 0x24CF, 1⟩, ⟨0x2C00, 0x2C2F, 1⟩, ⟨0x2C60, 0x2C60, 1⟩,
    ⟨0x2C62, 0x2C64, 1⟩, ⟨0x2C67, 0x2C6B, 2⟩, ⟨0x2C6D, 0x2C70, 1⟩, ⟨0x2C72, 0x2C72, 1⟩,
    ⟨0x2C75, 0x2C75, 1⟩, ⟨0x2C7E, 0x2C80, 1⟩, ⟨0x2C82, 0x2CE2, 2⟩, ⟨0x2CEB, 0x2CEB, 1⟩,
    ⟨0x2CED, 0x2CED, 1⟩, ⟨0x2CF2, 0x2CF2, 1⟩, ⟨0xA640, 0xA66C, 2⟩, ⟨0xA680, 0xA69A, 2⟩,
    ⟨0xA722, 0xA72E, 2⟩, ⟨0xA732, 0xA76E, 2⟩, ⟨0xA779, 0xA779, 1⟩, ⟨0xA77B, 0xA77B, 1⟩,
    ⟨0xA77D, 0xA77E, 1⟩, ⟨0xA780, 0xA786, 2⟩, ⟨0xA78B, 0xA78B, 1⟩, ⟨0xA78D, 0xA78D, 1⟩,
    ⟨0xA790, 0xA790, 1⟩, ⟨0xA792, 0xA792, 1⟩, ⟨0xA796, 0xA7A8, 2⟩, ⟨0xA7AA, 0xA7AE, 1⟩,
    ⟨0xA7B0, 0xA7B4, 1⟩, ⟨0xA7B6, 0xA7C2, 2⟩, ⟨0xA7C4, 0xA7C7, 1⟩, ⟨0xA7C9, 0xA7C9, 1⟩,
    ⟨0xA7CB, 0xA7CC, 1⟩, ⟨0xA7D0, 0xA7D0, 1⟩, ⟨0xA7D6, 0xA7DC, 2⟩, ⟨0xA7F5, 0xA7F5, 1⟩,
    ⟨0xFF21, 0xFF3A, 1⟩, ⟨0x10400, 0x10427, 1⟩, ⟨0x104B0, 0x104D3, 1⟩, ⟨0x10570, 0x1057A, 1⟩,
    ⟨0x1057C, 0x1058A, 1⟩, ⟨0x1058C, 0x10592, 1⟩, ⟨0x10594, 0x10595, 1⟩, ⟨0x10C80, 0x10CB2, 1⟩,
    ⟨0x10D50, 0x10D65, 1⟩, ⟨0x118A0, 0x118BF, 1⟩, ⟨0x16E40, 0x16E5F, 1⟩, ⟨0x1E900, 0x1E921, 1⟩ ]

def raised : List Run :=
  [
    ⟨0x0061, 0x007A, 1⟩, ⟨0x00B5, 0x00B5, 1⟩, ⟨0x00DF, 0x00F6, 1⟩, ⟨0x00F8, 0x00FF, 1⟩,
    ⟨0x0101, 0x0137, 2⟩, ⟨0x013A, 0x0146, 2⟩, ⟨0x0148, 0x0149, 1⟩, ⟨0x014B, 0x0177, 2⟩,
    ⟨0x017A, 0x017A, 1⟩, ⟨0x017C, 0x017C, 1⟩, ⟨0x017E, 0x0180, 1⟩, ⟨0x0183, 0x0183, 1⟩,
    ⟨0x0185, 0x0185, 1⟩, ⟨0x0188, 0x0188, 1⟩, ⟨0x018C, 0x018C, 1⟩, ⟨0x0192, 0x0192, 1⟩,
    ⟨0x0195, 0x0195, 1⟩, ⟨0x0199, 0x019B, 1⟩, ⟨0x019E, 0x019E, 1⟩, ⟨0x01A1, 0x01A5, 2⟩,
    ⟨0x01A8, 0x01A8, 1⟩, ⟨0x01AD, 0x01AD, 1⟩, ⟨0x01B0, 0x01B0, 1⟩, ⟨0x01B4, 0x01B4, 1⟩,
    ⟨0x01B6, 0x01B6, 1⟩, ⟨0x01B9, 0x01B9, 1⟩, ⟨0x01BD, 0x01BD, 1⟩, ⟨0x01BF, 0x01BF, 1⟩,
    ⟨0x01C5, 0x01C6, 1⟩, ⟨0x01C8, 0x01C9, 1⟩, ⟨0x01CB, 0x01CC, 1⟩, ⟨0x01CE, 0x01DA, 2⟩,
    ⟨0x01DC, 0x01DD, 1⟩, ⟨0x01DF, 0x01ED, 2⟩, ⟨0x01EF, 0x01F0, 1⟩, ⟨0x01F2, 0x01F3, 1⟩,
    ⟨0x01F5, 0x01F5, 1⟩, ⟨0x01F9, 0x021F, 2⟩, ⟨0x0223, 0x0233, 2⟩, ⟨0x023C, 0x023C, 1⟩,
    ⟨0x023F, 0x0240, 1⟩, ⟨0x0242, 0x0242, 1⟩, ⟨0x0247, 0x024D, 2⟩, ⟨0x024F, 0x0254, 1⟩,
    ⟨0x0256, 0x0257, 1⟩, ⟨0x0259, 0x0259, 1⟩, ⟨0x025B, 0x025C, 1⟩, ⟨0x0260, 0x0261, 1⟩,
    ⟨0x0263, 0x0266, 1⟩, ⟨0x0268, 0x026C, 1⟩, ⟨0x026F, 0x026F, 1⟩, ⟨0x0271, 0x0272, 1⟩,
    ⟨0x0275, 0x0275, 1⟩, ⟨0x027D, 0x027D, 1⟩, ⟨0x0280, 0x0280, 1⟩, ⟨0x0282, 0x0283, 1⟩,
    ⟨0x0287, 0x028C, 1⟩, ⟨0x0292, 0x0292, 1⟩, ⟨0x029D, 0x029E, 1⟩, ⟨0x0345, 0x0345, 1⟩,
    ⟨0x0371, 0x0371, 1⟩, ⟨0x0373, 0x0373, 1⟩, ⟨0x0377, 0x0377, 1⟩, ⟨0x037B, 0x037D, 1⟩,
    ⟨0x0390, 0x0390, 1⟩, ⟨0x03AC, 0x03CE, 1⟩, ⟨0x03D0, 0x03D1, 1⟩, ⟨0x03D5, 0x03D7, 1⟩,
    ⟨0x03D9, 0x03ED, 2⟩, ⟨0x03EF, 0x03F3, 1⟩, ⟨0x03F5, 0x03FB, 3⟩, ⟨0x0430, 0x045F, 1⟩,
    ⟨0x0461, 0x0481, 2⟩, ⟨0x048B, 0x04BF, 2⟩, ⟨0x04C2, 0x04CC, 2⟩, ⟨0x04CE, 0x04CF, 1⟩,
    ⟨0x04D1, 0x052F, 2⟩, ⟨0x0561, 0x0587, 1⟩, ⟨0x10D0, 0x10FA, 1⟩, ⟨0x10FD, 0x10FF, 1⟩,
    ⟨0x13F8, 0x13FD, 1⟩, ⟨0x1C80, 0x1C88, 1⟩, ⟨0x1C8A, 0x1C8A, 1⟩, ⟨0x1D79, 0x1D79, 1⟩,
    ⟨0x1D7D, 0x1D7D, 1⟩, ⟨0x1D8E, 0x1D8E, 1⟩, ⟨0x1E01, 0x1E93, 2⟩, ⟨0x1E95, 0x1E9B, 1⟩,
    ⟨0x1EA1, 0x1EFD, 2⟩, ⟨0x1EFF, 0x1F07, 1⟩, ⟨0x1F10, 0x1F15, 1⟩, ⟨0x1F20, 0x1F27, 1⟩,
    ⟨0x1F30, 0x1F37, 1⟩, ⟨0x1F40, 0x1F45, 1⟩, ⟨0x1F50, 0x1F57, 1⟩, ⟨0x1F60, 0x1F67, 1⟩,
    ⟨0x1F70, 0x1F7D, 1⟩, ⟨0x1F80, 0x1FB4, 1⟩, ⟨0x1FB6, 0x1FB7, 1⟩, ⟨0x1FBC, 0x1FBC, 1⟩,
    ⟨0x1FBE, 0x1FBE, 1⟩, ⟨0x1FC2, 0x1FC4, 1⟩, ⟨0x1FC6, 0x1FC7, 1⟩, ⟨0x1FCC, 0x1FCC, 1⟩,
    ⟨0x1FD0, 0x1FD3, 1⟩, ⟨0x1FD6, 0x1FD7, 1⟩, ⟨0x1FE0, 0x1FE7, 1⟩, ⟨0x1FF2, 0x1FF4, 1⟩,
    ⟨0x1FF6, 0x1FF7, 1⟩, ⟨0x1FFC, 0x1FFC, 1⟩, ⟨0x214E, 0x214E, 1⟩, ⟨0x2170, 0x217F, 1⟩,
    ⟨0x2184, 0x2184, 1⟩, ⟨0x24D0, 0x24E9, 1⟩, ⟨0x2C30, 0x2C5F, 1⟩, ⟨0x2C61, 0x2C61, 1⟩,
    ⟨0x2C65, 0x2C66, 1⟩, ⟨0x2C68, 0x2C6C, 2⟩, ⟨0x2C73, 0x2C73, 1⟩, ⟨0x2C76, 0x2C76, 1⟩,
    ⟨0x2C81, 0x2CE3, 2⟩, ⟨0x2CEC, 0x2CEC, 1⟩, ⟨0x2CEE, 0x2CEE, 1⟩, ⟨0x2CF3, 0x2CF3, 1⟩,
    ⟨0x2D00, 0x2D25, 1⟩, ⟨0x2D27, 0x2D27, 1⟩, ⟨0x2D2D, 0x2D2D, 1⟩, ⟨0xA641, 0xA66D, 2⟩,
    ⟨0xA681, 0xA69B, 2⟩, ⟨0xA723, 0xA72F, 2⟩, ⟨0xA733, 0xA76F, 2⟩, ⟨0xA77A, 0xA77A, 1⟩,
    ⟨0xA77C, 0xA77C, 1⟩, ⟨0xA77F, 0xA787, 2⟩, ⟨0xA78C, 0xA78C, 1⟩, ⟨0xA791, 0xA791, 1⟩,
    ⟨0xA793, 0xA794, 1⟩, ⟨0xA797, 0xA7A9, 2⟩, ⟨0xA7B5, 0xA7C3, 2⟩, ⟨0xA7C8, 0xA7C8, 1⟩,
    ⟨0xA7CA, 0xA7CA, 1⟩, ⟨0xA7CD, 0xA7CD, 1⟩, ⟨0xA7D1, 0xA7D1, 1⟩, ⟨0xA7D7, 0xA7DB, 2⟩,
    ⟨0xA7F6, 0xA7F6, 1⟩, ⟨0xAB53, 0xAB53, 1⟩, ⟨0xAB70, 0xABBF, 1⟩, ⟨0xFB00, 0xFB06, 1⟩,
    ⟨0xFB13, 0xFB17, 1⟩, ⟨0xFF41, 0xFF5A, 1⟩, ⟨0x10428, 0x1044F, 1⟩, ⟨0x104D8, 0x104FB, 1⟩,
    ⟨0x10597, 0x105A1, 1⟩, ⟨0x105A3, 0x105B1, 1⟩, ⟨0x105B3, 0x105B9, 1⟩, ⟨0x105BB, 0x105BC, 1⟩,
    ⟨0x10CC0, 0x10CF2, 1⟩, ⟨0x10D70, 0x10D85, 1⟩, ⟨0x118C0, 0x118DF, 1⟩, ⟨0x16E60, 0x16E7F, 1⟩,
    ⟨0x1E922, 0x1E943, 1⟩ ]

/-- The characters that title case changes and upper case does not. -/
def titledOnly : List Run :=
  [⟨0x01C4, 0x01CA, 3⟩, ⟨0x01F1, 0x01F1, 1⟩]

/-- The characters that upper case changes and title case does not. -/
def raisedOnly : List Run :=
  [
    ⟨0x01C5, 0x01CB, 3⟩, ⟨0x01F2, 0x01F2, 1⟩, ⟨0x10D0, 0x10FA, 1⟩, ⟨0x10FD, 0x10FF, 1⟩,
    ⟨0x1F88, 0x1F8F, 1⟩, ⟨0x1F98, 0x1F9F, 1⟩, ⟨0x1FA8, 0x1FAF, 1⟩, ⟨0x1FBC, 0x1FBC, 1⟩,
    ⟨0x1FCC, 0x1FCC, 1⟩, ⟨0x1FFC, 0x1FFC, 1⟩ ]

/-- The characters that case folding changes and lower case does not. -/
def foldedOnly : List Run :=
  [
    ⟨0x00B5, 0x00B5, 1⟩, ⟨0x00DF, 0x00DF, 1⟩, ⟨0x0149, 0x0149, 1⟩, ⟨0x017F, 0x017F, 1⟩,
    ⟨0x0345, 0x0345, 1⟩, ⟨0x03C2, 0x03C2, 1⟩, ⟨0x03D0, 0x03D1, 1⟩, ⟨0x03D5, 0x03D6, 1⟩,
    ⟨0x03F0, 0x03F1, 1⟩, ⟨0x03F5, 0x03F5, 1⟩, ⟨0x0587, 0x0587, 1⟩, ⟨0x13F8, 0x13FD, 1⟩,
    ⟨0x1C80, 0x1C88, 1⟩, ⟨0x1E9A, 0x1E9B, 1⟩, ⟨0x1F80, 0x1F87, 1⟩, ⟨0x1F90, 0x1F97, 1⟩,
    ⟨0x1FA0, 0x1FA7, 1⟩, ⟨0x1FB2, 0x1FB4, 1⟩, ⟨0x1FB7, 0x1FB7, 1⟩, ⟨0x1FC2, 0x1FC4, 1⟩,
    ⟨0x1FC7, 0x1FC7, 1⟩, ⟨0x1FF2, 0x1FF4, 1⟩, ⟨0x1FF7, 0x1FF7, 1⟩, ⟨0xAB70, 0xABBF, 1⟩,
    ⟨0xFB00, 0xFB06, 1⟩, ⟨0xFB13, 0xFB17, 1⟩ ]

/-- The characters that lower case changes and case folding does not. -/
def loweredOnly : List Run :=
  [⟨0x13A0, 0x13F5, 1⟩]

def changesInTitles : CharClass := fun c ↦
  (inRuns raised c.toNat && !inRuns raisedOnly c.toNat) || inRuns titledOnly c.toNat

def changesWhenFolded : CharClass := fun c ↦
  (inRuns lowered c.toNat && !inRuns loweredOnly c.toNat) || inRuns foldedOnly c.toNat

/-- `Changes_When_Casemapped`: changes in lower, upper or title case. -/
def changesWithCase : CharClass := fun c ↦
  inRuns lowered c.toNat || inRuns raised c.toNat || inRuns titledOnly c.toNat

end RecordSearch.Unicode
