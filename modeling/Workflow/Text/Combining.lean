import Workflow.Text.Table
/-!
# Combining classes

Marks on one character have a normal order. It goes by a class; marks of one class keep the order
in which they are written. Class zero is for what is no such mark.

## Main definitions

* `Text.combiningClass c` — the class of `c`.
-/

namespace Workflow.Text

/-- A class with the ranges of its members. -/
def readClass : Row → Option (Nat × Nat × Nat)
  | [(n, '='), (first, '-'), (last, _)] => some (n, first, last)
  | [(n, '='), (c, _)] => some (n, c, c)
  | _ => none

/-- The property `Canonical_Combining_Class`, as far as it is not zero. -/
def combiningClasses : List (Nat × Nat × Nat) := (readRows
  "1=334-338 1=1CD4 1=1CE2-1CE8 1=20D2-20D3 1=20D8-20DA 1=20E5-20E6 1=20EA-20EB 1=10A39
1=16AF0-16AF4 1=1BC9E 1=1D167-1D169 6=16FF0-16FF1 7=93C 7=9BC 7=A3C 7=ABC 7=B3C 7=C3C 7=CBC 7=1037
7=1B34 7=1BE6 7=1C37 7=A9B3 7=110BA 7=11173 7=111CA 7=11236 7=112E9 7=1133B-1133C 7=11446 7=114C3
7=115C0 7=116B7 7=1183A 7=11943 7=11D42 7=1E94A 8=3099-309A 9=94D 9=9CD 9=A4D 9=ACD 9=B4D 9=BCD
9=C4D 9=CCD 9=D3B-D3C 9=D4D 9=DCA 9=E3A 9=EBA 9=F84 9=1039-103A 9=1714-1715 9=1734 9=17D2 9=1A60
9=1B44 9=1BAA-1BAB 9=1BF2-1BF3 9=2D7F 9=A806 9=A82C 9=A8C4 9=A953 9=A9C0 9=AAF6 9=ABED 9=10A3F
9=11046 9=11070 9=1107F 9=110B9 9=11133-11134 9=111C0 9=11235 9=112EA 9=1134D 9=11442 9=114C2
9=115BF 9=1163F 9=116B6 9=1172B 9=11839 9=1193D-1193E 9=119E0 9=11A34 9=11A47 9=11A99 9=11C3F
9=11D44-11D45 9=11D97 9=11F41-11F42 A=5B0 B=5B1 C=5B2 D=5B3 E=5B4 F=5B5 10=5B6 11=5B7 12=5B8
12=5C7 13=5B9-5BA 14=5BB 15=5BC 16=5BD 17=5BF 18=5C1 19=5C2 1A=FB1E 1B=64B 1B=8F0 1C=64C 1C=8F1
1D=64D 1D=8F2 1E=618 1E=64E 1F=619 1F=64F 20=61A 20=650 21=651 22=652 23=670 24=711 54=C55 5B=C56
67=E38-E39 6B=E48-E4B 76=EB8-EB9 7A=EC8-ECB 81=F71 82=F72 82=F7A-F7D 82=F80 84=F74 CA=321-322
CA=327-328 CA=1DD0 D6=1DCE D8=31B D8=F39 D8=1D165-1D166 D8=1D16E-1D172 DA=1DFA DA=302A DC=316-319
DC=31C-320 DC=323-326 DC=329-333 DC=339-33C DC=347-349 DC=34D-34E DC=353-356 DC=359-35A DC=591
DC=596 DC=59B DC=5A2-5A7 DC=5AA DC=5C5 DC=655-656 DC=65C DC=65F DC=6E3 DC=6EA DC=6ED DC=731 DC=734
DC=737-739 DC=73B-73C DC=73E DC=742 DC=744 DC=746 DC=748 DC=7F2 DC=7FD DC=859-85B DC=899-89B
DC=8CF-8D3 DC=8E3 DC=8E6 DC=8E9 DC=8ED-8EF DC=8F6 DC=8F9-8FA DC=952 DC=F18-F19 DC=F35 DC=F37
DC=FC6 DC=108D DC=193B DC=1A18 DC=1A7F DC=1AB5-1ABA DC=1ABD DC=1ABF-1AC0 DC=1AC3-1AC4 DC=1ACA
DC=1B6C DC=1CD5-1CD9 DC=1CDC-1CDF DC=1CED DC=1DC2 DC=1DCA DC=1DCF DC=1DF9 DC=1DFD DC=1DFF DC=20E8
DC=20EC-20EF DC=A92B-A92D DC=AAB4 DC=FE27-FE2D DC=101FD DC=102E0 DC=10A0D DC=10A3A DC=10AE6
DC=10EFD-10EFF DC=10F46-10F47 DC=10F4B DC=10F4D-10F50 DC=10F83 DC=10F85 DC=1D17B-1D182
DC=1D18A-1D18B DC=1E4EE DC=1E8D0-1E8D6 DE=59A DE=5AD DE=1939 DE=302D E0=302E-302F E2=1D16D E4=5AE
E4=18A9 E4=1DF7-1DF8 E4=302B E6=300-314 E6=33D-344 E6=346 E6=34A-34C E6=350-352 E6=357 E6=35B
E6=363-36F E6=483-487 E6=592-595 E6=597-599 E6=59C-5A1 E6=5A8-5A9 E6=5AB-5AC E6=5AF E6=5C4
E6=610-617 E6=653-654 E6=657-65B E6=65D-65E E6=6D6-6DC E6=6DF-6E2 E6=6E4 E6=6E7-6E8 E6=6EB-6EC
E6=730 E6=732-733 E6=735-736 E6=73A E6=73D E6=73F-741 E6=743 E6=745 E6=747 E6=749-74A E6=7EB-7F1
E6=7F3 E6=816-819 E6=81B-823 E6=825-827 E6=829-82D E6=898 E6=89C-89F E6=8CA-8CE E6=8D4-8E1
E6=8E4-8E5 E6=8E7-8E8 E6=8EA-8EC E6=8F3-8F5 E6=8F7-8F8 E6=8FB-8FF E6=951 E6=953-954 E6=9FE
E6=F82-F83 E6=F86-F87 E6=135D-135F E6=17DD E6=193A E6=1A17 E6=1A75-1A7C E6=1AB0-1AB4 E6=1ABB-1ABC
E6=1AC1-1AC2 E6=1AC5-1AC9 E6=1ACB-1ACE E6=1B6B E6=1B6D-1B73 E6=1CD0-1CD2 E6=1CDA-1CDB E6=1CE0
E6=1CF4 E6=1CF8-1CF9 E6=1DC0-1DC1 E6=1DC3-1DC9 E6=1DCB-1DCC E6=1DD1-1DF5 E6=1DFB E6=1DFE
E6=20D0-20D1 E6=20D4-20D7 E6=20DB-20DC E6=20E1 E6=20E7 E6=20E9 E6=20F0 E6=2CEF-2CF1 E6=2DE0-2DFF
E6=A66F E6=A674-A67D E6=A69E-A69F E6=A6F0-A6F1 E6=A8E0-A8F1 E6=AAB0 E6=AAB2-AAB3 E6=AAB7-AAB8
E6=AABE-AABF E6=AAC1 E6=FE20-FE26 E6=FE2E-FE2F E6=10376-1037A E6=10A0F E6=10A38 E6=10AE5
E6=10D24-10D27 E6=10EAB-10EAC E6=10F48-10F4A E6=10F4C E6=10F82 E6=10F84 E6=11100-11102
E6=11366-1136C E6=11370-11374 E6=1145E E6=16B30-16B36 E6=1D185-1D189 E6=1D1AA-1D1AD E6=1D242-1D244
E6=1E000-1E006 E6=1E008-1E018 E6=1E01B-1E021 E6=1E023-1E024 E6=1E026-1E02A E6=1E08F E6=1E130-1E136
E6=1E2AE E6=1E2EC-1E2EF E6=1E4EF E6=1E944-1E949 E8=315 E8=31A E8=358 E8=1DF6 E8=302C
E8=1E4EC-1E4ED E9=35C E9=35F E9=362 E9=1DFC EA=35D-35E EA=360-361 EA=1DCD
F0=345").filterMap readClass

/-- The class by which marks on one character are ordered. -/
def combiningClass (c : Char) : Nat :=
  match combiningClasses.find? fun (_, first, last) => first ≤ c.toNat && c.toNat ≤ last with
  | some (n, _, _) => n
  | none => 0

end Workflow.Text
