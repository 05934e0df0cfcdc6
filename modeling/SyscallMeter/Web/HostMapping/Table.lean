import SyscallMeter.Text.CharTable

/-! What the characters of host names stand for. -/
namespace SyscallMeter.Web
open Text

/-- Characters that stand in no host name. -/
def refusedInHosts : CharTable Unit := .ranges
  "80 20 2D8 2 6 4 7 1 1 1 14 1 18D 1 26 2 32 2 3 1 37 8 1B 4 6 11 16 1 C0 1 30 2 3B 2 65 E 3B 
    2 31 2 F 1 1C 2 1 1 B 5 20 7 4B 1 A1 1 8 2 2 2 16 1 7 1 1 3 4 2 9 2 2 2 4 8 1 4 2 1 5 2 19 
    2 3 1 6 4 2 2 16 1 7 1 2 1 2 1 2 2 1 1 5 4 2 2 3 3 1 7 4 1 1 7 11 A 3 1 9 1 3 1 16 1 7 1 2 
    1 5 2 A 1 3 1 3 2 1 F 4 2 C 7 7 1 3 1 8 2 2 2 16 1 7 1 2 1 5 2 9 2 2 2 3 7 3 4 2 1 5 2 12 A 
    2 1 6 3 3 1 4 3 2 1 1 1 2 3 2 3 3 3 C 4 5 3 3 1 4 2 1 6 1 E 15 5 D 1 3 1 17 1 10 2 9 1 3 1 
    4 7 2 1 3 1 2 2 4 2 A 7 16 1 3 1 17 1 A 1 5 2 9 1 3 1 4 7 2 5 3 1 4 2 A 1 3 C D 1 3 1 33 1 
    3 1 6 4 10 2 1A 1 3 1 12 3 18 1 9 1 1 2 7 3 1 4 6 1 1 1 8 6 A 2 3 C 3A 4 1D 25 2 1 1 1 5 1 
    18 1 1 1 17 2 5 1 1 1 7 1 A 2 4 20 48 1 24 4 27 1 24 1 F 1 D 25 C6 1 1 5 1 2 179 1 4 2 7 1 
    1 1 4 2 29 1 4 2 21 1 4 2 7 1 1 1 4 2 F 1 39 1 4 2 43 2 20 3 1A 6 56 2 6 2 280 1 1C 3 59 7 
    16 9 18 9 14 C D 1 3 1 2 C 5E 2 A 6 A 6 1A 6 59 7 2B 5 46 A 1F 1 C 4 C 4 1 3 2A 2 5 B 2C 4 
    1A 6 B 3 3E 2 41 1 1D 2 B 6 A 6 E 2 2E 2 C 14 4D 1 A6 8 3C 3 F 3 3E 5 2B 2 B 8 2B 5 216 2 6 
    2 26 2 6 2 8 1 1 1 1 1 1 1 1F 2 35 1 F 1 E 2 6 1 13 2 3 1 9 1 E 2 14 3 1 7 36 5 8 2 1B 1 D 
    3 22 E 21 F 8C 4 29A 16 B 15 28 14 6D8 2 17E 5 2D 1 1 5 1 2 38 7 2 E 18 9 7 1 7 1 7 1 7 1 7 
    1 7 1 7 1 7 1 7E 22 1A 1 59 C D6 2A 40 1 56 2 67 5 2B 1 5E 1 56 A 2F 1 1A2 1 4 1 10 1 70B4 
    3 37 9 15C 14 B8 8 DD 14 3C 3 A 6 38 8 46 8 C 6 74 B 1E 3 4E 1 B 4 21 1 37 9 E 2 A 2 67 18 
    1C A 6 2 6 2 6 9 7 1 7 1 3C 4 7E 2 A 6 2BA4 C 17 4 31 2104 16E 2 6A 26 7 C 5 5 1A 1 5 1 1 1 
    2 1 2 1 28A 20 22 1 6 7 10 1 21 2 13 1 4 4 5 1 87 2 1 1 BE 3 6 2 6 2 6 2 3 3 7 1 7 11 C 1 
    1A 1 13 1 2 1 F 2 E 22 7B 5 3 4 2D 3 58 1 D 3 1 2F 2E 82 1D 3 31 F 1C 4 24 9 1E 5 2B 5 1E 1 
    25 4 E 2A 9E 2 A 6 24 4 24 4 28 8 34 B C 1 F 1 7 1 2 1 B 1 F 1 7 1 2 3 34 C 137 9 16 A 8 18 
    6 1 2A 1 9 45 6 2 1 1 2C 1 2 3 1 2 17 1 48 8 9 30 13 1 2 5 21 3 1B 5 1B 26 38 4 14 2 32 1 2 
    5 8 1 3 1 1D 2 3 4 A 7 9 7 40 20 27 4 C 9 36 3 1D 2 1B 5 1A 7 4 C 7 50 49 37 33 D 33 7 2E 8 
    A 6 26 3 1D 8 2 D0 1F 1 2A 1 3 2 2 10 6 8 9 21 2E 8 2A 16 1A 26 1C 14 17 9 4E 4 24 9 3E 1 5 
    D 19 7 A 6 35 1 12 8 27 9 60 1 14 B 12 1 2F 3E 7 1 1 1 4 1 F 1 B 6 3B 5 A 6 4 1 8 2 2 2 16 
    1 7 1 2 1 5 1 A 2 2 2 3 2 1 6 1 5 7 2 7 3 5 B A 1 1 2 1 1 26 1 A 1 1 2 1 1 4 1 A 1 2 8 2 1D 
    5C 1 5 1E 48 8 A A6 36 2 26 22 45 B A 6 D 13 3A 6 A 6 14 1C 1B 2 F 4 17 B9 3C 64 53 C 8 2 1 
    2 8 1 2 1 1E 1 2 2 C 9 A 46 8 2 2E 2 B 1B 48 8 53 D 49 7 A 56 8 58 22 E A 6 9 1 2D 1 E A 1D 
    3 20 2 16 1 E 49 7 1 2 1 2C 3 1 1 2 1 9 8 A 6 6 1 2 1 25 1 2 1 6 7 A 6 2C 4 A F6 19 7 11 1 
    29 3 1D 55 1 F 32 D 39B 66 6F 1 5 B C4 A4C 63 D 430 10 16 A F9B 5 247 1AB9 3A 6C6 239 7 1F 
    1 A 4 51 1 A 6 1E 2 6 A 46 A A 1 7 1 15 5 13 1B0 3A C6 5B 5 19 2 19 2C 4B 4 39 7 11 40 5 B 
    7 9 1CD6 29 20 61 73 21FD 4 1 7 1 2 1 123 F 1 1D 3 2 1 E 4 8 18C 904 6B 5 D 3 9 7 A 2 8 F5C 
    FD 3 1B4 6 17 F 11 F 2E 2 17 9 74 3C F6 A 27 2 C2 15 46 7A 14 C 14 C 57 9 19 87 55 1 47 1 2 
    2 1 2 2 2 4 1 C 1 1 1 7 1 41 1 4 2 8 1 7 1 1C 1 4 1 5 1 1 3 7 1 154 2 124 2 2BE F 5 1 F 450 
    1F 6 6 D5 7 1 11 2 7 1 2 1 5 5 3E 21 1 70 2D 3 E 2 A 4 2 140 1F 11 3A 5 1 1D0 2A D6 2B 4 1 
    C0 1F 1 16 8 2 E0 7 1 4 1 2 1 F 1 C5 2 10 29 4C 4 A 4 2 311 44 4C 3D C2 4 1 1B 1 2 1 1 2 1 
    1 A 1 4 1 1 1 1 6 1 4 1 1 1 1 1 1 3 1 2 1 1 2 1 1 1 1 1 1 1 1 1 1 2 1 1 2 4 1 7 1 4 1 4 1 1 
    1 A 1 11 5 3 1 5 1 11 34 2 10E 2C 4 64 C F 2 F 1 F 1 25 B AD 38 1D D 2C 4 9 7 2 E 6 9A 3D9 
    3 11 3 D 3 DA 6 C 4 1 F C 4 38 8 A 6 28 8 1E 2 C 4 2 E 9 27 158 8 E 2 D 3 B 3 39 1 1 4 10 2 
    C 4 A 7 93 1 67 405 A6E0 20 111E 2 168E 2 1D31 F 26E 9A2 21E 5E2 134B 5 212A ACC86 F0 2FE10"

/-- Characters that count for nothing. -/
def ignoredInHosts : CharTable Unit := .ranges
  "AD 1 2A1 1 E0F 2 653 2 55 5 7FB 1 54 5 5 6 10F4 1 CC9B 10 EF 1 A0 1 BCFF 4 14CF 8 C2F85 F0"

/-- Runs of letters that stand for a run of letters, each as its distance, its count, the distance
between its letters and the first letter it stands for. -/
def lettersFrom (last : Nat) : List Nat → List (CharRun (Nat × Nat))
  | distance :: count :: step :: target :: rest =>
    let first := last + distance
    ⟨first, first + (count - 1) * step + 1, (step, target)⟩ :: lettersFrom first rest
  | _ => []

/-- Runs of letters: the distance between letters, and the first letter they stand for. -/
def hostLetters : CharTable (Nat × Nat) := (lettersFrom 0 (numbers
  "41 1A 1 61 7F 17 1 E0 18 7 1 F8 28 18 2 101 39 3 2 13A 8 4 2 142 9 17 2 14B 2F 3 2 17A 27 3 
    2 1A1 2D 8 2 1CE 11 9 2 1DF 1A 14 2 1F9 2A 9 2 223 24 5 2 247 142 3 1 3AD 9 11 1 3B1 12 9 1 
    3C3 35 C 2 3D9 25 3 1 37B 3 10 1 450 10 20 1 430 50 11 2 461 2A 1B 2 48B 37 7 2 4C2 F 30 2 
    4D1 61 26 1 561 B6F 26 1 2D00 358 6 1 13F0 898 2B 1 10D0 2D 3 1 10FD 76 8 1 67 2A 3 1 3B2 
    47 3 1 268 A 4 1 272 E 3 1 290 44 4B 2 1E01 A0 30 2 1EA1 68 8 1 1F00 10 6 1 1F10 10 8 1 
    1F20 10 8 1 1F30 10 6 1 1F40 11 4 2 1F51 F 8 1 1F60 10C 6 1 34 C A 1 30 16 4 1 6B 83 3 1 70 
    1C 4 1 5D0 32B 9 1 31 56 1A 1 61 1A 1A 1 61 730 30 1 2C30 67 3 2 2C68 19 32 2 2C81 4B7 3 1 
    1103 3 6 1 11B0 7 3 1 1106 4 A 1 1109 A 15 1 1161 29 5 1 112B C 3 1 1157 DF 3 1 1105 6 5 1 
    110E 7B 6 1 30CA A 5 1 30DE 7 6 1 30E8 6 4 1 30EF 7345 17 2 A641 40 E 2 A681 A2 7 2 A723 10 
    1F 2 A733 4C 5 2 A77F 18 A 2 A797 1E 8 2 A7B5 18 8 2 A7CD 3A4 50 1 13A0 4FB4 3 1 5DB 31D 4 
    1 300C C0 20 1 21 20 1A 1 61 1A 24 1 5B 4A 6 1 30CA A 5 1 30DE 7 6 1 30E8 11 3 1 1103 3 6 1 
    11B0 7 3 1 1106 4 A 1 1109 D 6 1 1161 8 6 1 1167 8 6 1 116D 8 3 1 1173 F 4 1 2190 417 28 1 
    10428 B0 24 1 104D8 C0 B 1 10597 C F 1 105A3 10 7 1 105B3 22A 3 1 1C0 4CA 33 1 10CC0 D0 16 
    1 10D70 B50 20 1 118C0 55A0 20 1 16E60 60 19 1 16EBB 5E36 1A 1 61 1A A 1 30 710 1A 1 61 1A 
    1A 1 61 1A 1A 1 61 1A 7 1 61 8 12 1 69 12 1A 1 61 1A 1A 1 61 27 4 1 6E 5 8 1 73 8 4 1 61 8 
    6 1 69 7 B 1 70 B 1A 1 61 1A 1A 1 61 1D 4 1 64 6 8 1 6A 9 7 1 73 8 1A 1 61 1D 4 1 64 5 5 1 
    69 A 7 1 73 8 1A 1 61 1A 1A 1 61 1A 1A 1 61 1A 1A 1 61 1A 1A 1 61 1A 1A 1 61 1A 1A 1 61 1A 
    1A 1 61 1A 1A 1 61 1A 1A 1 61 1A 1A 1 61 1A 1A 1 61 1A 1A 1 61 1E 11 1 3B1 12 7 1 3C3 8 11 
    1 3B1 12 7 1 3C3 E 11 1 3B1 12 7 1 3C3 8 11 1 3B1 12 7 1 3C3 E 11 1 3B1 12 7 1 3C3 8 11 1 
    3B1 12 7 1 3C3 E 11 1 3B1 12 7 1 3C3 8 11 1 3B1 12 7 1 3C3 E 11 1 3B1 12 7 1 3C3 8 11 1 3B1 
    12 7 1 3C3 12 A 1 30 A A 1 30 A A 1 30 A A 1 30 A A 1 30 83A 9 1 430 9 3 1 43A 3 B 1 43E 15 
    9 1 430 E 6 1 443 8A1 22 1 1E922 50A 4 1 643 20 4 1 643 61 3 1 644 20 3 1 644 285 1A 1 61 
    AC0 A 1 30")).toArray

/-- Other characters, each as its distance from the one before, a count, and that many characters
that it stands for. -/
def variantsFrom (last : Nat) : List Nat → List (CharRun (List Char))
  | distance :: count :: rest =>
    let c := last + distance
    ⟨c, c + 1, (rest.take count).map Char.ofNat⟩ :: variantsFrom c (rest.drop count)
  | _ => []
termination_by numbers => numbers.length
decreasing_by simp only [List.length_cons, List.length_drop]; omega

/-- Single characters and what they stand for. -/
def hostVariants : CharTable (List Char) := (variantsFrom 0 (numbers
  "A0 1 20 8 2 20 308 2 1 61 5 2 20 304 3 1 32 1 1 33 1 2 20 301 1 1 3BC 3 2 20 327 1 1 31 1 1 
    6F 2 3 31 2044 34 1 3 31 2044 32 1 3 33 2044 34 72 2 69 307 2 2 69 6A 1 2 69 6A 1 1 135 2 1 
    137 9 2 6C B7 1 2 6C B7 9 2 2BC 6E 2F 1 FF 7 1 73 2 1 253 1 1 183 2 1 185 2 1 254 1 1 188 2 
    1 256 1 1 257 1 1 18C 3 1 1DD 1 1 259 1 1 25B 1 1 192 2 1 260 1 1 263 2 1 269 1 1 268 1 1 
    199 4 1 26F 1 1 272 2 1 275 7 1 280 1 1 1A8 2 1 283 3 1 1AD 2 1 288 1 1 1B0 2 1 28A 1 1 28B 
    1 1 1B4 2 1 1B6 2 1 292 1 1 1B9 4 1 1BD 8 2 64 17E 1 2 64 17E 1 2 64 17E 1 2 6C 6A 1 2 6C 
    6A 1 2 6C 6A 1 2 6E 6A 1 2 6E 6A 1 2 6E 6A 25 2 64 7A 1 2 64 7A 1 2 64 7A 1 1 1F5 2 1 195 1 
    1 1BF 29 1 19E 1A 1 2C65 1 1 23C 2 1 19A 1 1 2C66 3 1 242 2 1 180 1 1 289 1 1 28C 6B 1 68 1 
    1 266 1 1 6A 1 1 72 1 1 279 1 1 27B 1 1 281 1 1 77 1 1 79 20 2 20 306 1 2 20 307 1 2 20 30A 
    1 2 20 328 1 2 20 303 1 2 20 30B 3 1 263 1 1 6C 1 1 73 1 1 78 1 1 295 5C 1 300 1 1 301 2 1 
    313 1 2 308 301 1 1 3B9 2B 1 371 2 1 373 2 1 2B9 2 1 377 4 2 20 3B9 4 1 3B 1 1 3F3 5 2 20 
    301 1 3 20 308 301 1 1 3AC 1 1 B7 5 1 3CC 2 1 3CD 1 1 3CE 40 1 3D7 1 1 3B2 1 1 3B8 1 1 3C5 
    1 1 3CD 1 1 3CB 1 1 3C6 1 1 3C0 1A 1 3BA 1 1 3C1 1 1 3C3 2 1 3B8 1 1 3B5 2 1 3F8 2 1 3C3 1 
    1 3FB C6 1 4CF C7 2 565 582 EE 2 627 674 1 2 648 674 1 2 6C7 674 1 2 64A 674 2E0 2 915 93C 
    1 2 916 93C 1 2 917 93C 1 2 91C 93C 1 2 921 93C 1 2 922 93C 1 2 92B 93C 1 2 92F 93C 7D 2 
    9A1 9BC 1 2 9A2 9BC 2 2 9AF 9BC 54 2 A32 A3C 3 2 A38 A3C 23 2 A16 A3C 1 2 A17 A3C 1 2 A1C 
    A3C 3 2 A2B A3C FE 2 B21 B3C 1 2 B22 B3C 2D6 2 E4D E32 80 2 ECD EB2 29 2 EAB E99 1 2 EAB 
    EA1 2F 1 F0B 37 2 F42 FB7 A 2 F4C FB7 5 2 F51 FB7 5 2 F56 FB7 5 2 F5B FB7 D 2 F40 FB5 A 2 
    F71 F72 2 2 F71 F74 1 2 FB2 F80 1 3 FB2 F71 F80 1 2 FB3 F80 1 3 FB3 F71 F80 8 2 F71 F80 12 
    2 F92 FB7 A 2 F9C FB7 5 2 FA1 FB7 5 2 FA6 FB7 5 2 FAB FB7 D 2 F90 FB5 10E 1 2D27 6 1 2D2D 
    2F 1 10DC B84 1 432 1 1 434 1 1 43E 1 1 441 1 1 442 1 1 442 1 1 44A 1 1 463 1 1 A64B 1 1 
    1C8A A3 1 61 1 1 E6 1 1 62 2 1 64 1 1 65 1 1 1DD A 1 6F 1 1 223 1 1 70 1 1 72 1 1 74 1 1 75 
    1 1 77 1 1 61 1 1 250 1 1 251 1 1 1D02 1 1 62 1 1 64 1 1 65 1 1 259 1 1 25B 1 1 25C 1 1 67 
    2 1 6B 1 1 6D 1 1 14B 1 1 6F 1 1 254 1 1 1D16 1 1 1D17 1 1 70 1 1 74 1 1 75 1 1 1D1D 1 1 
    26F 1 1 76 1 1 1D25 4 1 3C6 1 1 3C7 1 1 69 1 1 72 1 1 75 1 1 76 1 1 3B2 1 1 3B3 1 1 3C1 1 1 
    3C6 1 1 3C7 E 1 43D 23 1 252 1 1 63 1 1 255 1 1 F0 1 1 25C 1 1 66 1 1 25F 1 1 261 1 1 265 4 
    1 1D7B 1 1 29D 1 1 26D 1 1 1D85 1 1 29F 1 1 271 1 1 270 5 1 278 1 1 282 1 1 283 1 1 1AB 1 1 
    289 1 1 28A 1 1 1D1C 1 1 28B 1 1 28C 1 1 7A 4 1 3B8 DB 2 61 2BE 1 1 1E61 3 1 DF D3 1 3AC 2 
    1 3AD 2 1 3AE 2 1 3AF 2 1 3CC 2 1 3CD 2 1 3CE 3 2 1F00 3B9 1 2 1F01 3B9 1 2 1F02 3B9 1 2 
    1F03 3B9 1 2 1F04 3B9 1 2 1F05 3B9 1 2 1F06 3B9 1 2 1F07 3B9 1 2 1F00 3B9 1 2 1F01 3B9 1 2 
    1F02 3B9 1 2 1F03 3B9 1 2 1F04 3B9 1 2 1F05 3B9 1 2 1F06 3B9 1 2 1F07 3B9 1 2 1F20 3B9 1 2 
    1F21 3B9 1 2 1F22 3B9 1 2 1F23 3B9 1 2 1F24 3B9 1 2 1F25 3B9 1 2 1F26 3B9 1 2 1F27 3B9 1 2 
    1F20 3B9 1 2 1F21 3B9 1 2 1F22 3B9 1 2 1F23 3B9 1 2 1F24 3B9 1 2 1F25 3B9 1 2 1F26 3B9 1 2 
    1F27 3B9 1 2 1F60 3B9 1 2 1F61 3B9 1 2 1F62 3B9 1 2 1F63 3B9 1 2 1F64 3B9 1 2 1F65 3B9 1 2 
    1F66 3B9 1 2 1F67 3B9 1 2 1F60 3B9 1 2 1F61 3B9 1 2 1F62 3B9 1 2 1F63 3B9 1 2 1F64 3B9 1 2 
    1F65 3B9 1 2 1F66 3B9 1 2 1F67 3B9 3 2 1F70 3B9 1 2 3B1 3B9 1 2 3AC 3B9 3 2 1FB6 3B9 1 1 
    1FB0 1 1 1FB1 1 1 1F70 1 1 3AC 1 2 3B1 3B9 1 2 20 313 1 1 3B9 1 2 20 313 1 2 20 342 1 3 20 
    308 342 1 2 1F74 3B9 1 2 3B7 3B9 1 2 3AE 3B9 3 2 1FC6 3B9 1 1 1F72 1 1 3AD 1 1 1F74 1 1 3AE 
    1 2 3B7 3B9 1 3 20 313 300 1 3 20 313 301 1 3 20 313 342 4 1 390 5 1 1FD0 1 1 1FD1 1 1 1F76 
    1 1 3AF 2 3 20 314 300 1 3 20 314 301 1 3 20 314 342 4 1 3B0 5 1 1FE0 1 1 1FE1 1 1 1F7A 1 1 
    3CD 1 1 1FE5 1 3 20 308 300 1 3 20 308 301 1 1 60 3 2 1F7C 3B9 1 2 3C9 3B9 1 2 3CE 3B9 3 2 
    1FF6 3B9 1 1 1F78 1 1 3CC 1 1 1F7C 1 1 3CE 1 2 3C9 3B9 1 2 20 301 1 2 20 314 2 1 20 1 1 20 
    1 1 20 1 1 20 1 1 20 1 1 20 1 1 20 1 1 20 1 1 20 1 1 20 1 1 20 7 1 2010 6 2 20 333 18 1 20 
    4 2 2032 2032 1 3 2032 2032 2032 2 2 2035 2035 1 3 2035 2035 2035 5 2 21 21 2 2 20 305 9 2 
    3F 3F 1 2 3F 21 1 2 21 3F E 4 2032 2032 2032 2032 8 1 20 11 1 30 1 1 69 9 1 2B 1 1 2212 1 1 
    3D 1 1 28 1 1 29 1 1 6E B 1 2B 1 1 2212 1 1 3D 1 1 28 1 1 29 2 1 61 1 1 65 1 1 6F 1 1 78 1 
    1 259 1 1 68 5 1 70 1 1 73 1 1 74 C 2 72 73 58 3 61 2F 63 1 3 61 2F 73 1 1 63 1 2 B0 63 2 3 
    63 2F 6F 1 3 63 2F 75 1 1 25B 2 2 B0 66 1 1 67 1 1 68 1 1 68 1 1 68 1 1 68 1 1 127 1 1 69 1 
    1 69 1 1 6C 1 1 6C 2 1 6E 1 2 6E 6F 6 1 72 1 1 72 3 2 73 6D 1 3 74 65 6C 1 2 74 6D 2 1 7A 2 
    1 3C9 2 1 7A 2 1 6B 1 1 E5 1 1 62 1 1 63 2 1 65 1 1 65 1 1 66 1 1 214E 1 1 6D 1 1 6F 5 1 69 
    2 3 66 61 78 1 1 3C0 1 1 3B3 1 1 3B3 1 1 3C0 1 1 2211 5 1 64 1 1 64 1 1 65 1 1 69 1 1 6A 7 
    3 31 2044 37 1 3 31 2044 39 1 4 31 2044 31 30 1 3 31 2044 33 1 3 32 2044 33 1 3 31 2044 35 
    1 3 32 2044 35 1 3 33 2044 35 1 3 34 2044 35 1 3 31 2044 36 1 3 35 2044 36 1 3 31 2044 38 1 
    3 33 2044 38 1 3 35 2044 38 1 3 37 2044 38 1 2 31 2044 1 1 69 1 2 69 69 1 3 69 69 69 1 2 69 
    76 1 1 76 1 2 76 69 1 3 76 69 69 1 4 76 69 69 69 1 2 69 78 1 1 78 1 2 78 69 1 3 78 69 69 1 
    1 6C 1 1 63 1 1 64 1 1 6D 1 1 69 1 2 69 69 1 3 69 69 69 1 2 69 76 1 1 76 1 2 76 69 1 3 76 
    69 69 1 4 76 69 69 69 1 2 69 78 1 1 78 1 2 78 69 1 3 78 69 69 1 1 6C 1 1 63 1 1 64 1 1 6D 4 
    1 2184 6 3 30 2044 33 A3 2 222B 222B 1 3 222B 222B 222B 2 2 222E 222E 1 3 222E 222E 222E F9 
    1 3008 1 1 3009 13F 2 31 30 1 2 31 31 1 2 31 32 1 2 31 33 1 2 31 34 1 2 31 35 1 2 31 36 1 2 
    31 37 1 2 31 38 1 2 31 39 1 2 32 30 1 3 28 31 29 1 3 28 32 29 1 3 28 33 29 1 3 28 34 29 1 3 
    28 35 29 1 3 28 36 29 1 3 28 37 29 1 3 28 38 29 1 3 28 39 29 1 4 28 31 30 29 1 4 28 31 31 
    29 1 4 28 31 32 29 1 4 28 31 33 29 1 4 28 31 34 29 1 4 28 31 35 29 1 4 28 31 36 29 1 4 28 
    31 37 29 1 4 28 31 38 29 1 4 28 31 39 29 1 4 28 32 30 29 15 3 28 61 29 1 3 28 62 29 1 3 28 
    63 29 1 3 28 64 29 1 3 28 65 29 1 3 28 66 29 1 3 28 67 29 1 3 28 68 29 1 3 28 69 29 1 3 28 
    6A 29 1 3 28 6B 29 1 3 28 6C 29 1 3 28 6D 29 1 3 28 6E 29 1 3 28 6F 29 1 3 28 70 29 1 3 28 
    71 29 1 3 28 72 29 1 3 28 73 29 1 3 28 74 29 1 3 28 75 29 1 3 28 76 29 1 3 28 77 29 1 3 28 
    78 29 1 3 28 79 29 1 3 28 7A 29 35 1 30 522 4 222B 222B 222B 222B 68 3 3A 3A 3D 1 2 3D 3D 1 
    3 3D 3D 3D 66 2 2ADD 338 184 1 2C61 2 1 26B 1 1 1D7D 1 1 27D 9 1 251 1 1 271 1 1 250 1 1 
    252 2 1 2C73 3 1 2C76 7 1 6A 1 1 76 1 1 23F 1 1 240 6C 1 2CEC 2 1 2CEE 5 1 2CF3 7D 1 2D61 
    130 1 6BCD 54 1 9F9F D 1 4E00 1 1 4E28 1 1 4E36 1 1 4E3F 1 1 4E59 1 1 4E85 1 1 4E8C 1 1 
    4EA0 1 1 4EBA 1 1 513F 1 1 5165 1 1 516B 1 1 5182 1 1 5196 1 1 51AB 1 1 51E0 1 1 51F5 1 1 
    5200 1 1 529B 1 1 52F9 1 1 5315 1 1 531A 1 1 5338 1 1 5341 1 1 535C 1 1 5369 1 1 5382 1 1 
    53B6 1 1 53C8 1 1 53E3 1 1 56D7 1 1 571F 1 1 58EB 1 1 5902 1 1 590A 1 1 5915 1 1 5927 1 1 
    5973 1 1 5B50 1 1 5B80 1 1 5BF8 1 1 5C0F 1 1 5C22 1 1 5C38 1 1 5C6E 1 1 5C71 1 1 5DDB 1 1 
    5DE5 1 1 5DF1 1 1 5DFE 1 1 5E72 1 1 5E7A 1 1 5E7F 1 1 5EF4 1 1 5EFE 1 1 5F0B 1 1 5F13 1 1 
    5F50 1 1 5F61 1 1 5F73 1 1 5FC3 1 1 6208 1 1 6236 1 1 624B 1 1 652F 1 1 6534 1 1 6587 1 1 
    6597 1 1 65A4 1 1 65B9 1 1 65E0 1 1 65E5 1 1 66F0 1 1 6708 1 1 6728 1 1 6B20 1 1 6B62 1 1 
    6B79 1 1 6BB3 1 1 6BCB 1 1 6BD4 1 1 6BDB 1 1 6C0F 1 1 6C14 1 1 6C34 1 1 706B 1 1 722A 1 1 
    7236 1 1 723B 1 1 723F 1 1 7247 1 1 7259 1 1 725B 1 1 72AC 1 1 7384 1 1 7389 1 1 74DC 1 1 
    74E6 1 1 7518 1 1 751F 1 1 7528 1 1 7530 1 1 758B 1 1 7592 1 1 7676 1 1 767D 1 1 76AE 1 1 
    76BF 1 1 76EE 1 1 77DB 1 1 77E2 1 1 77F3 1 1 793A 1 1 79B8 1 1 79BE 1 1 7A74 1 1 7ACB 1 1 
    7AF9 1 1 7C73 1 1 7CF8 1 1 7F36 1 1 7F51 1 1 7F8A 1 1 7FBD 1 1 8001 1 1 800C 1 1 8012 1 1 
    8033 1 1 807F 1 1 8089 1 1 81E3 1 1 81EA 1 1 81F3 1 1 81FC 1 1 820C 1 1 821B 1 1 821F 1 1 
    826E 1 1 8272 1 1 8278 1 1 864D 1 1 866B 1 1 8840 1 1 884C 1 1 8863 1 1 897E 1 1 898B 1 1 
    89D2 1 1 8A00 1 1 8C37 1 1 8C46 1 1 8C55 1 1 8C78 1 1 8C9D 1 1 8D64 1 1 8D70 1 1 8DB3 1 1 
    8EAB 1 1 8ECA 1 1 8F9B 1 1 8FB0 1 1 8FB5 1 1 9091 1 1 9149 1 1 91C6 1 1 91CC 1 1 91D1 1 1 
    9577 1 1 9580 1 1 961C 1 1 96B6 1 1 96B9 1 1 96E8 1 1 9751 1 1 975E 1 1 9762 1 1 9769 1 1 
    97CB 1 1 97ED 1 1 97F3 1 1 9801 1 1 98A8 1 1 98DB 1 1 98DF 1 1 9996 1 1 9999 1 1 99AC 1 1 
    9AA8 1 1 9AD8 1 1 9ADF 1 1 9B25 1 1 9B2F 1 1 9B32 1 1 9B3C 1 1 9B5A 1 1 9CE5 1 1 9E75 1 1 
    9E7F 1 1 9EA5 1 1 9EBB 1 1 9EC3 1 1 9ECD 1 1 9ED1 1 1 9EF9 1 1 9EFD 1 1 9F0E 1 1 9F13 1 1 
    9F20 1 1 9F3B 1 1 9F4A 1 1 9F52 1 1 9F8D 1 1 9F9C 1 1 9FA0 2B 1 20 2 1 2E 34 1 3012 2 1 
    5341 1 1 5344 1 1 5345 61 2 20 3099 1 2 20 309A 3 2 3088 308A 60 2 30B3 30C8 32 1 1100 1 1 
    1101 1 1 11AA 1 1 1102 1 1 11AC 1 1 11AD A 1 111A 4 1 1121 21 1 1114 1 1 1115 1 1 11C7 1 1 
    11C8 1 1 11CC 1 1 11CE 1 1 11D3 1 1 11D7 1 1 11D9 1 1 111C 1 1 11DD 1 1 11DF 1 1 111D 1 1 
    111E 1 1 1120 1 1 1122 1 1 1123 1 1 1127 1 1 1129 6 1 1132 1 1 1136 1 1 1140 1 1 1147 1 1 
    114C 1 1 11F1 1 1 11F2 4 1 1184 1 1 1185 1 1 1188 1 1 1191 1 1 1192 1 1 1194 1 1 119E 1 1 
    11A1 4 1 4E00 1 1 4E8C 1 1 4E09 1 1 56DB 1 1 4E0A 1 1 4E2D 1 1 4E0B 1 1 7532 1 1 4E59 1 1 
    4E19 1 1 4E01 1 1 5929 1 1 5730 1 1 4EBA 61 3 28 1100 29 1 3 28 1102 29 1 3 28 1103 29 1 3 
    28 1105 29 1 3 28 1106 29 1 3 28 1107 29 1 3 28 1109 29 1 3 28 110B 29 1 3 28 110C 29 1 3 
    28 110E 29 1 3 28 110F 29 1 3 28 1110 29 1 3 28 1111 29 1 3 28 1112 29 1 3 28 AC00 29 1 3 
    28 B098 29 1 3 28 B2E4 29 1 3 28 B77C 29 1 3 28 B9C8 29 1 3 28 BC14 29 1 3 28 C0AC 29 1 3 
    28 C544 29 1 3 28 C790 29 1 3 28 CC28 29 1 3 28 CE74 29 1 3 28 D0C0 29 1 3 28 D30C 29 1 3 
    28 D558 29 1 3 28 C8FC 29 1 4 28 C624 C804 29 1 4 28 C624 D6C4 29 2 3 28 4E00 29 1 3 28 
    4E8C 29 1 3 28 4E09 29 1 3 28 56DB 29 1 3 28 4E94 29 1 3 28 516D 29 1 3 28 4E03 29 1 3 28 
    516B 29 1 3 28 4E5D 29 1 3 28 5341 29 1 3 28 6708 29 1 3 28 706B 29 1 3 28 6C34 29 1 3 28 
    6728 29 1 3 28 91D1 29 1 3 28 571F 29 1 3 28 65E5 29 1 3 28 682A 29 1 3 28 6709 29 1 3 28 
    793E 29 1 3 28 540D 29 1 3 28 7279 29 1 3 28 8CA1 29 1 3 28 795D 29 1 3 28 52B4 29 1 3 28 
    4EE3 29 1 3 28 547C 29 1 3 28 5B66 29 1 3 28 76E3 29 1 3 28 4F01 29 1 3 28 8CC7 29 1 3 28 
    5354 29 1 3 28 796D 29 1 3 28 4F11 29 1 3 28 81EA 29 1 3 28 81F3 29 1 1 554F 1 1 5E7C 1 1 
    6587 1 1 7B8F 9 3 70 74 65 1 2 32 31 1 2 32 32 1 2 32 33 1 2 32 34 1 2 32 35 1 2 32 36 1 2 
    32 37 1 2 32 38 1 2 32 39 1 2 33 30 1 2 33 31 1 2 33 32 1 2 33 33 1 2 33 34 1 2 33 35 1 1 
    1100 1 1 1102 1 1 1103 4 1 1109 1 1 110B 1 1 110C 6 1 AC00 1 1 B098 1 1 B2E4 1 1 B77C 1 1 
    B9C8 1 1 BC14 1 1 C0AC 1 1 C544 1 1 C790 1 1 CC28 1 1 CE74 1 1 D0C0 1 1 D30C 1 1 D558 1 2 
    CC38 ACE0 1 2 C8FC C758 1 1 C6B0 2 1 4E00 1 1 4E8C 1 1 4E09 1 1 56DB 1 1 4E94 1 1 516D 1 1 
    4E03 1 1 516B 1 1 4E5D 1 1 5341 1 1 6708 1 1 706B 1 1 6C34 1 1 6728 1 1 91D1 1 1 571F 1 1 
    65E5 1 1 682A 1 1 6709 1 1 793E 1 1 540D 1 1 7279 1 1 8CA1 1 1 795D 1 1 52B4 1 1 79D8 1 1 
    7537 1 1 5973 1 1 9069 1 1 512A 1 1 5370 1 1 6CE8 1 1 9805 1 1 4F11 1 1 5199 1 1 6B63 1 1 
    4E0A 1 1 4E2D 1 1 4E0B 1 1 5DE6 1 1 53F3 1 1 533B 1 1 5B97 1 1 5B66 1 1 76E3 1 1 4F01 1 1 
    8CC7 1 1 5354 1 1 591C 1 2 33 36 1 2 33 37 1 2 33 38 1 2 33 39 1 2 34 30 1 2 34 31 1 2 34 
    32 1 2 34 33 1 2 34 34 1 2 34 35 1 2 34 36 1 2 34 37 1 2 34 38 1 2 34 39 1 2 35 30 1 2 31 
    6708 1 2 32 6708 1 2 33 6708 1 2 34 6708 1 2 35 6708 1 2 36 6708 1 2 37 6708 1 2 38 6708 1 
    2 39 6708 1 3 31 30 6708 1 3 31 31 6708 1 3 31 32 6708 1 2 68 67 1 3 65 72 67 1 2 65 76 1 3 
    6C 74 64 1 1 30A2 1 1 30A4 1 1 30A6 1 1 30A8 1 1 30AA 1 1 30AB 1 1 30AD 1 1 30AF 1 1 30B1 1 
    1 30B3 1 1 30B5 1 1 30B7 1 1 30B9 1 1 30BB 1 1 30BD 1 1 30BF 1 1 30C1 1 1 30C4 1 1 30C6 1 1 
    30C8 7 1 30D2 1 1 30D5 1 1 30D8 1 1 30DB 6 1 30E4 1 1 30E6 B 2 4EE4 548C 1 4 30A2 30D1 30FC 
    30C8 1 4 30A2 30EB 30D5 30A1 1 4 30A2 30F3 30DA 30A2 1 3 30A2 30FC 30EB 1 4 30A4 30CB 30F3 
    30B0 1 3 30A4 30F3 30C1 1 3 30A6 30A9 30F3 1 5 30A8 30B9 30AF 30FC 30C9 1 4 30A8 30FC 30AB 
    30FC 1 3 30AA 30F3 30B9 1 3 30AA 30FC 30E0 1 3 30AB 30A4 30EA 1 4 30AB 30E9 30C3 30C8 1 4 
    30AB 30ED 30EA 30FC 1 3 30AC 30ED 30F3 1 3 30AC 30F3 30DE 1 2 30AE 30AC 1 3 30AE 30CB 30FC 
    1 4 30AD 30E5 30EA 30FC 1 4 30AE 30EB 30C0 30FC 1 2 30AD 30ED 1 5 30AD 30ED 30B0 30E9 30E0 
    1 6 30AD 30ED 30E1 30FC 30C8 30EB 1 5 30AD 30ED 30EF 30C3 30C8 1 3 30B0 30E9 30E0 1 5 30B0 
    30E9 30E0 30C8 30F3 1 5 30AF 30EB 30BC 30A4 30ED 1 4 30AF 30ED 30FC 30CD 1 3 30B1 30FC 30B9 
    1 3 30B3 30EB 30CA 1 3 30B3 30FC 30DD 1 4 30B5 30A4 30AF 30EB 1 5 30B5 30F3 30C1 30FC 30E0 
    1 4 30B7 30EA 30F3 30B0 1 3 30BB 30F3 30C1 1 3 30BB 30F3 30C8 1 3 30C0 30FC 30B9 1 2 30C7 
    30B7 1 2 30C9 30EB 1 2 30C8 30F3 1 2 30CA 30CE 1 3 30CE 30C3 30C8 1 3 30CF 30A4 30C4 1 5 
    30D1 30FC 30BB 30F3 30C8 1 3 30D1 30FC 30C4 1 4 30D0 30FC 30EC 30EB 1 5 30D4 30A2 30B9 30C8 
    30EB 1 3 30D4 30AF 30EB 1 2 30D4 30B3 1 2 30D3 30EB 1 5 30D5 30A1 30E9 30C3 30C9 1 4 30D5 
    30A3 30FC 30C8 1 5 30D6 30C3 30B7 30A7 30EB 1 3 30D5 30E9 30F3 1 5 30D8 30AF 30BF 30FC 30EB 
    1 2 30DA 30BD 1 3 30DA 30CB 30D2 1 3 30D8 30EB 30C4 1 3 30DA 30F3 30B9 1 3 30DA 30FC 30B8 1 
    3 30D9 30FC 30BF 1 4 30DD 30A4 30F3 30C8 1 3 30DC 30EB 30C8 1 2 30DB 30F3 1 3 30DD 30F3 
    30C9 1 3 30DB 30FC 30EB 1 3 30DB 30FC 30F3 1 4 30DE 30A4 30AF 30ED 1 3 30DE 30A4 30EB 1 3 
    30DE 30C3 30CF 1 3 30DE 30EB 30AF 1 5 30DE 30F3 30B7 30E7 30F3 1 4 30DF 30AF 30ED 30F3 1 2 
    30DF 30EA 1 5 30DF 30EA 30D0 30FC 30EB 1 2 30E1 30AC 1 4 30E1 30AC 30C8 30F3 1 4 30E1 30FC 
    30C8 30EB 1 3 30E4 30FC 30C9 1 3 30E4 30FC 30EB 1 3 30E6 30A2 30F3 1 4 30EA 30C3 30C8 30EB 
    1 2 30EA 30E9 1 3 30EB 30D4 30FC 1 4 30EB 30FC 30D6 30EB 1 2 30EC 30E0 1 5 30EC 30F3 30C8 
    30B2 30F3 1 3 30EF 30C3 30C8 1 2 30 70B9 1 2 31 70B9 1 2 32 70B9 1 2 33 70B9 1 2 34 70B9 1 
    2 35 70B9 1 2 36 70B9 1 2 37 70B9 1 2 38 70B9 1 2 39 70B9 1 3 31 30 70B9 1 3 31 31 70B9 1 3 
    31 32 70B9 1 3 31 33 70B9 1 3 31 34 70B9 1 3 31 35 70B9 1 3 31 36 70B9 1 3 31 37 70B9 1 3 
    31 38 70B9 1 3 31 39 70B9 1 3 32 30 70B9 1 3 32 31 70B9 1 3 32 32 70B9 1 3 32 33 70B9 1 3 
    32 34 70B9 1 3 68 70 61 1 2 64 61 1 2 61 75 1 3 62 61 72 1 2 6F 76 1 2 70 63 1 2 64 6D 1 3 
    64 6D 32 1 3 64 6D 33 1 2 69 75 1 2 5E73 6210 1 2 662D 548C 1 2 5927 6B63 1 2 660E 6CBB 1 4 
    682A 5F0F 4F1A 793E 1 2 70 61 1 2 6E 61 1 2 3BC 61 1 2 6D 61 1 2 6B 61 1 2 6B 62 1 2 6D 62 
    1 2 67 62 1 3 63 61 6C 1 4 6B 63 61 6C 1 2 70 66 1 2 6E 66 1 2 3BC 66 1 2 3BC 67 1 2 6D 67 
    1 2 6B 67 1 2 68 7A 1 3 6B 68 7A 1 3 6D 68 7A 1 3 67 68 7A 1 3 74 68 7A 1 2 3BC 6C 1 2 6D 
    6C 1 2 64 6C 1 2 6B 6C 1 2 66 6D 1 2 6E 6D 1 2 3BC 6D 1 2 6D 6D 1 2 63 6D 1 2 6B 6D 1 3 6D 
    6D 32 1 3 63 6D 32 1 2 6D 32 1 3 6B 6D 32 1 3 6D 6D 33 1 3 63 6D 33 1 2 6D 33 1 3 6B 6D 33 
    1 3 6D 2215 73 1 4 6D 2215 73 32 1 2 70 61 1 3 6B 70 61 1 3 6D 70 61 1 3 67 70 61 1 3 72 61 
    64 1 5 72 61 64 2215 73 1 6 72 61 64 2215 73 32 1 2 70 73 1 2 6E 73 1 2 3BC 73 1 2 6D 73 1 
    2 70 76 1 2 6E 76 1 2 3BC 76 1 2 6D 76 1 2 6B 76 1 2 6D 76 1 2 70 77 1 2 6E 77 1 2 3BC 77 1 
    2 6D 77 1 2 6B 77 1 2 6D 77 1 2 6B 3C9 1 2 6D 3C9 2 2 62 71 1 2 63 63 1 2 63 64 1 4 63 2215 
    6B 67 2 2 64 62 1 2 67 79 1 2 68 61 1 2 68 70 1 2 69 6E 1 2 6B 6B 1 2 6B 6D 1 2 6B 74 1 2 
    6C 6D 1 2 6C 6E 1 3 6C 6F 67 1 2 6C 78 1 2 6D 62 1 3 6D 69 6C 1 3 6D 6F 6C 1 2 70 68 2 3 70 
    70 6D 1 2 70 72 1 2 73 72 1 2 73 76 1 2 77 62 1 3 76 2215 6D 1 3 61 2215 6D 1 2 31 65E5 1 2 
    32 65E5 1 2 33 65E5 1 2 34 65E5 1 2 35 65E5 1 2 36 65E5 1 2 37 65E5 1 2 38 65E5 1 2 39 65E5 
    1 3 31 30 65E5 1 3 31 31 65E5 1 3 31 32 65E5 1 3 31 33 65E5 1 3 31 34 65E5 1 3 31 35 65E5 1 
    3 31 36 65E5 1 3 31 37 65E5 1 3 31 38 65E5 1 3 31 39 65E5 1 3 32 30 65E5 1 3 32 31 65E5 1 3 
    32 32 65E5 1 3 32 33 65E5 1 3 32 34 65E5 1 3 32 35 65E5 1 3 32 36 65E5 1 3 32 37 65E5 1 3 
    32 38 65E5 1 3 32 39 65E5 1 3 33 30 65E5 1 3 33 31 65E5 1 3 67 61 6C 729D 1 44A 1 1 44C D3 
    1 A76F 9 1 A77A 2 1 A77C 2 1 1D79 E 1 A78C 2 1 265 3 1 A791 2 1 A793 18 1 266 1 1 25C 1 1 
    261 1 1 26C 1 1 26A 2 1 29E 1 1 287 1 1 29D 1 1 AB53 11 1 A794 1 1 282 1 1 1D8E 1 1 A7C8 2 
    1 A7CA 2 1 264 11 1 19B 15 1 73 1 1 63 1 1 66 1 1 71 1 1 A7F6 3 1 127 1 1 153 363 1 A727 1 
    1 AB37 1 1 26B 1 1 AB52 A 1 28D 4D97 1 8C48 1 1 66F4 1 1 8ECA 1 1 8CC8 1 1 6ED1 1 1 4E32 1 
    1 53E5 1 1 9F9C 1 1 9F9C 1 1 5951 1 1 91D1 1 1 5587 1 1 5948 1 1 61F6 1 1 7669 1 1 7F85 1 1 
    863F 1 1 87BA 1 1 88F8 1 1 908F 1 1 6A02 1 1 6D1B 1 1 70D9 1 1 73DE 1 1 843D 1 1 916A 1 1 
    99F1 1 1 4E82 1 1 5375 1 1 6B04 1 1 721B 1 1 862D 1 1 9E1E 1 1 5D50 1 1 6FEB 1 1 85CD 1 1 
    8964 1 1 62C9 1 1 81D8 1 1 881F 1 1 5ECA 1 1 6717 1 1 6D6A 1 1 72FC 1 1 90CE 1 1 4F86 1 1 
    51B7 1 1 52DE 1 1 64C4 1 1 6AD3 1 1 7210 1 1 76E7 1 1 8001 1 1 8606 1 1 865C 1 1 8DEF 1 1 
    9732 1 1 9B6F 1 1 9DFA 1 1 788C 1 1 797F 1 1 7DA0 1 1 83C9 1 1 9304 1 1 9E7F 1 1 8AD6 1 1 
    58DF 1 1 5F04 1 1 7C60 1 1 807E 1 1 7262 1 1 78CA 1 1 8CC2 1 1 96F7 1 1 58D8 1 1 5C62 1 1 
    6A13 1 1 6DDA 1 1 6F0F 1 1 7D2F 1 1 7E37 1 1 964B 1 1 52D2 1 1 808B 1 1 51DC 1 1 51CC 1 1 
    7A1C 1 1 7DBE 1 1 83F1 1 1 9675 1 1 8B80 1 1 62CF 1 1 6A02 1 1 8AFE 1 1 4E39 1 1 5BE7 1 1 
    6012 1 1 7387 1 1 7570 1 1 5317 1 1 78FB 1 1 4FBF 1 1 5FA9 1 1 4E0D 1 1 6CCC 1 1 6578 1 1 
    7D22 1 1 53C3 1 1 585E 1 1 7701 1 1 8449 1 1 8AAA 1 1 6BBA 1 1 8FB0 1 1 6C88 1 1 62FE 1 1 
    82E5 1 1 63A0 1 1 7565 1 1 4EAE 1 1 5169 1 1 51C9 1 1 6881 1 1 7CE7 1 1 826F 1 1 8AD2 1 1 
    91CF 1 1 52F5 1 1 5442 1 1 5973 1 1 5EEC 1 1 65C5 1 1 6FFE 1 1 792A 1 1 95AD 1 1 9A6A 1 1 
    9E97 1 1 9ECE 1 1 529B 1 1 66C6 1 1 6B77 1 1 8F62 1 1 5E74 1 1 6190 1 1 6200 1 1 649A 1 1 
    6F23 1 1 7149 1 1 7489 1 1 79CA 1 1 7DF4 1 1 806F 1 1 8F26 1 1 84EE 1 1 9023 1 1 934A 1 1 
    5217 1 1 52A3 1 1 54BD 1 1 70C8 1 1 88C2 1 1 8AAA 1 1 5EC9 1 1 5FF5 1 1 637B 1 1 6BAE 1 1 
    7C3E 1 1 7375 1 1 4EE4 1 1 56F9 1 1 5BE7 1 1 5DBA 1 1 601C 1 1 73B2 1 1 7469 1 1 7F9A 1 1 
    8046 1 1 9234 1 1 96F6 1 1 9748 1 1 9818 1 1 4F8B 1 1 79AE 1 1 91B4 1 1 96B8 1 1 60E1 1 1 
    4E86 1 1 50DA 1 1 5BEE 1 1 5C3F 1 1 6599 1 1 6A02 1 1 71CE 1 1 7642 1 1 84FC 1 1 907C 1 1 
    9F8D 1 1 6688 1 1 962E 1 1 5289 1 1 677B 1 1 67F3 1 1 6D41 1 1 6E9C 1 1 7409 1 1 7559 1 1 
    786B 1 1 7D10 1 1 985E 1 1 516D 1 1 622E 1 1 9678 1 1 502B 1 1 5D19 1 1 6DEA 1 1 8F2A 1 1 
    5F8B 1 1 6144 1 1 6817 1 1 7387 1 1 9686 1 1 5229 1 1 540F 1 1 5C65 1 1 6613 1 1 674E 1 1 
    68A8 1 1 6CE5 1 1 7406 1 1 75E2 1 1 7F79 1 1 88CF 1 1 88E1 1 1 91CC 1 1 96E2 1 1 533F 1 1 
    6EBA 1 1 541D 1 1 71D0 1 1 7498 1 1 85FA 1 1 96A3 1 1 9C57 1 1 9E9F 1 1 6797 1 1 6DCB 1 1 
    81E8 1 1 7ACB 1 1 7B20 1 1 7C92 1 1 72C0 1 1 7099 1 1 8B58 1 1 4EC0 1 1 8336 1 1 523A 1 1 
    5207 1 1 5EA6 1 1 62D3 1 1 7CD6 1 1 5B85 1 1 6D1E 1 1 66B4 1 1 8F3B 1 1 884C 1 1 964D 1 1 
    898B 1 1 5ED3 1 1 5140 1 1 55C0 3 1 585A 2 1 6674 3 1 51DE 1 1 732A 1 1 76CA 1 1 793C 1 1 
    795E 1 1 7965 1 1 798F 1 1 9756 1 1 7CBE 1 1 7FBD 2 1 8612 2 1 8AF8 3 1 9038 1 1 90FD 4 1 
    98EF 1 1 98FC 1 1 9928 1 1 9DB4 1 1 90DE 1 1 96B7 1 1 4FAE 1 1 50E7 1 1 514D 1 1 52C9 1 1 
    52E4 1 1 5351 1 1 559D 1 1 5606 1 1 5668 1 1 5840 1 1 58A8 1 1 5C64 1 1 5C6E 1 1 6094 1 1 
    6168 1 1 618E 1 1 61F2 1 1 654F 1 1 65E2 1 1 6691 1 1 6885 1 1 6D77 1 1 6E1A 1 1 6F22 1 1 
    716E 1 1 722B 1 1 7422 1 1 7891 1 1 793E 1 1 7949 1 1 7948 1 1 7950 1 1 7956 1 1 795D 1 1 
    798D 1 1 798E 1 1 7A40 1 1 7A81 1 1 7BC0 1 1 7DF4 1 1 7E09 1 1 7E41 1 1 7F72 1 1 8005 1 1 
    81ED 1 1 8279 1 1 8279 1 1 8457 1 1 8910 1 1 8996 1 1 8B01 1 1 8B39 1 1 8CD3 1 1 8D08 1 1 
    8FB6 1 1 9038 1 1 96E3 1 1 97FF 1 1 983B 1 1 6075 1 1 242EE 1 1 8218 3 1 4E26 1 1 51B5 1 1 
    5168 1 1 4F80 1 1 5145 1 1 5180 1 1 52C7 1 1 52FA 1 1 559D 1 1 5555 1 1 5599 1 1 55E2 1 1 
    585A 1 1 58B3 1 1 5944 1 1 5954 1 1 5A62 1 1 5B28 1 1 5ED2 1 1 5ED9 1 1 5F69 1 1 5FAD 1 1 
    60D8 1 1 614E 1 1 6108 1 1 618E 1 1 6160 1 1 61F2 1 1 6234 1 1 63C4 1 1 641C 1 1 6452 1 1 
    6556 1 1 6674 1 1 6717 1 1 671B 1 1 6756 1 1 6B79 1 1 6BBA 1 1 6D41 1 1 6EDB 1 1 6ECB 1 1 
    6F22 1 1 701E 1 1 716E 1 1 77A7 1 1 7235 1 1 72AF 1 1 732A 1 1 7471 1 1 7506 1 1 753B 1 1 
    761D 1 1 761F 1 1 76CA 1 1 76DB 1 1 76F4 1 1 774A 1 1 7740 1 1 78CC 1 1 7AB1 1 1 7BC0 1 1 
    7C7B 1 1 7D5B 1 1 7DF4 1 1 7F3E 1 1 8005 1 1 8352 1 1 83EF 1 1 8779 1 1 8941 1 1 8986 1 1 
    8996 1 1 8ABF 1 1 8AF8 1 1 8ACB 1 1 8B01 1 1 8AFE 1 1 8AED 1 1 8B39 1 1 8B8A 1 1 8D08 1 1 
    8F38 1 1 9072 1 1 9199 1 1 9276 1 1 967C 1 1 96E3 1 1 9756 1 1 97DB 1 1 97FF 1 1 980B 1 1 
    983B 1 1 9B12 1 1 9F9C 1 1 2284A 1 1 22844 1 1 233D5 1 1 3B9D 1 1 4018 1 1 4039 1 1 25249 1 
    1 25CD0 1 1 27ED3 1 1 9F43 1 1 9F8E 27 2 66 66 1 2 66 69 1 2 66 6C 1 3 66 66 69 1 3 66 66 
    6C 1 2 73 74 1 2 73 74 D 2 574 576 1 2 574 565 1 2 574 56B 1 2 57E 576 1 2 574 56D 6 2 5D9 
    5B4 2 2 5F2 5B7 1 1 5E2 1 1 5D0 1 1 5D3 1 1 5D4 4 1 5E8 1 1 5EA 1 1 2B 1 2 5E9 5C1 1 2 5E9 
    5C2 1 3 5E9 5BC 5C1 1 3 5E9 5BC 5C2 1 2 5D0 5B7 1 2 5D0 5B8 1 2 5D0 5BC 1 2 5D1 5BC 1 2 5D2 
    5BC 1 2 5D3 5BC 1 2 5D4 5BC 1 2 5D5 5BC 1 2 5D6 5BC 2 2 5D8 5BC 1 2 5D9 5BC 1 2 5DA 5BC 1 2 
    5DB 5BC 1 2 5DC 5BC 2 2 5DE 5BC 2 2 5E0 5BC 1 2 5E1 5BC 2 2 5E3 5BC 1 2 5E4 5BC 2 2 5E6 5BC 
    1 2 5E7 5BC 1 2 5E8 5BC 1 2 5E9 5BC 1 2 5EA 5BC 1 2 5D5 5B9 1 2 5D1 5BF 1 2 5DB 5BF 1 2 5E4 
    5BF 1 2 5D0 5DC 1 1 671 1 1 671 1 1 67B 1 1 67B 1 1 67B 1 1 67B 1 1 67E 1 1 67E 1 1 67E 1 1 
    67E 1 1 680 1 1 680 1 1 680 1 1 680 1 1 67A 1 1 67A 1 1 67A 1 1 67A 1 1 67F 1 1 67F 1 1 67F 
    1 1 67F 1 1 679 1 1 679 1 1 679 1 1 679 1 1 6A4 1 1 6A4 1 1 6A4 1 1 6A4 1 1 6A6 1 1 6A6 1 1 
    6A6 1 1 6A6 1 1 684 1 1 684 1 1 684 1 1 684 1 1 683 1 1 683 1 1 683 1 1 683 1 1 686 1 1 686 
    1 1 686 1 1 686 1 1 687 1 1 687 1 1 687 1 1 687 1 1 68D 1 1 68D 1 1 68C 1 1 68C 1 1 68E 1 1 
    68E 1 1 688 1 1 688 1 1 698 1 1 698 1 1 691 1 1 691 1 1 6A9 1 1 6A9 1 1 6A9 1 1 6A9 1 1 6AF 
    1 1 6AF 1 1 6AF 1 1 6AF 1 1 6B3 1 1 6B3 1 1 6B3 1 1 6B3 1 1 6B1 1 1 6B1 1 1 6B1 1 1 6B1 1 1 
    6BA 1 1 6BA 1 1 6BB 1 1 6BB 1 1 6BB 1 1 6BB 1 1 6C0 1 1 6C0 1 1 6C1 1 1 6C1 1 1 6C1 1 1 6C1 
    1 1 6BE 1 1 6BE 1 1 6BE 1 1 6BE 1 1 6D2 1 1 6D2 1 1 6D3 1 1 6D3 22 1 6AD 1 1 6AD 1 1 6AD 1 
    1 6AD 1 1 6C7 1 1 6C7 1 1 6C6 1 1 6C6 1 1 6C8 1 1 6C8 1 2 6C7 674 1 1 6CB 1 1 6CB 1 1 6C5 1 
    1 6C5 1 1 6C9 1 1 6C9 1 1 6D0 1 1 6D0 1 1 6D0 1 1 6D0 1 1 649 1 1 649 1 2 626 627 1 2 626 
    627 1 2 626 6D5 1 2 626 6D5 1 2 626 648 1 2 626 648 1 2 626 6C7 1 2 626 6C7 1 2 626 6C6 1 2 
    626 6C6 1 2 626 6C8 1 2 626 6C8 1 2 626 6D0 1 2 626 6D0 1 2 626 6D0 1 2 626 649 1 2 626 649 
    1 2 626 649 1 1 6CC 1 1 6CC 1 1 6CC 1 1 6CC 1 2 626 62C 1 2 626 62D 1 2 626 645 1 2 626 649 
    1 2 626 64A 1 2 628 62C 1 2 628 62D 1 2 628 62E 1 2 628 645 1 2 628 649 1 2 628 64A 1 2 62A 
    62C 1 2 62A 62D 1 2 62A 62E 1 2 62A 645 1 2 62A 649 1 2 62A 64A 1 2 62B 62C 1 2 62B 645 1 2 
    62B 649 1 2 62B 64A 1 2 62C 62D 1 2 62C 645 1 2 62D 62C 1 2 62D 645 1 2 62E 62C 1 2 62E 62D 
    1 2 62E 645 1 2 633 62C 1 2 633 62D 1 2 633 62E 1 2 633 645 1 2 635 62D 1 2 635 645 1 2 636 
    62C 1 2 636 62D 1 2 636 62E 1 2 636 645 1 2 637 62D 1 2 637 645 1 2 638 645 1 2 639 62C 1 2 
    639 645 1 2 63A 62C 1 2 63A 645 1 2 641 62C 1 2 641 62D 1 2 641 62E 1 2 641 645 1 2 641 649 
    1 2 641 64A 1 2 642 62D 1 2 642 645 1 2 642 649 1 2 642 64A 1 2 643 627 1 2 643 62C 1 2 643 
    62D 1 2 643 62E 1 2 643 644 1 2 643 645 1 2 643 649 1 2 643 64A 1 2 644 62C 1 2 644 62D 1 2 
    644 62E 1 2 644 645 1 2 644 649 1 2 644 64A 1 2 645 62C 1 2 645 62D 1 2 645 62E 1 2 645 645 
    1 2 645 649 1 2 645 64A 1 2 646 62C 1 2 646 62D 1 2 646 62E 1 2 646 645 1 2 646 649 1 2 646 
    64A 1 2 647 62C 1 2 647 645 1 2 647 649 1 2 647 64A 1 2 64A 62C 1 2 64A 62D 1 2 64A 62E 1 2 
    64A 645 1 2 64A 649 1 2 64A 64A 1 2 630 670 1 2 631 670 1 2 649 670 1 3 20 64C 651 1 3 20 
    64D 651 1 3 20 64E 651 1 3 20 64F 651 1 3 20 650 651 1 3 20 651 670 1 2 626 631 1 2 626 632 
    1 2 626 645 1 2 626 646 1 2 626 649 1 2 626 64A 1 2 628 631 1 2 628 632 1 2 628 645 1 2 628 
    646 1 2 628 649 1 2 628 64A 1 2 62A 631 1 2 62A 632 1 2 62A 645 1 2 62A 646 1 2 62A 649 1 2 
    62A 64A 1 2 62B 631 1 2 62B 632 1 2 62B 645 1 2 62B 646 1 2 62B 649 1 2 62B 64A 1 2 641 649 
    1 2 641 64A 1 2 642 649 1 2 642 64A 1 2 643 627 1 2 643 644 1 2 643 645 1 2 643 649 1 2 643 
    64A 1 2 644 645 1 2 644 649 1 2 644 64A 1 2 645 627 1 2 645 645 1 2 646 631 1 2 646 632 1 2 
    646 645 1 2 646 646 1 2 646 649 1 2 646 64A 1 2 649 670 1 2 64A 631 1 2 64A 632 1 2 64A 645 
    1 2 64A 646 1 2 64A 649 1 2 64A 64A 1 2 626 62C 1 2 626 62D 1 2 626 62E 1 2 626 645 1 2 626 
    647 1 2 628 62C 1 2 628 62D 1 2 628 62E 1 2 628 645 1 2 628 647 1 2 62A 62C 1 2 62A 62D 1 2 
    62A 62E 1 2 62A 645 1 2 62A 647 1 2 62B 645 1 2 62C 62D 1 2 62C 645 1 2 62D 62C 1 2 62D 645 
    1 2 62E 62C 1 2 62E 645 1 2 633 62C 1 2 633 62D 1 2 633 62E 1 2 633 645 1 2 635 62D 1 2 635 
    62E 1 2 635 645 1 2 636 62C 1 2 636 62D 1 2 636 62E 1 2 636 645 1 2 637 62D 1 2 638 645 1 2 
    639 62C 1 2 639 645 1 2 63A 62C 1 2 63A 645 1 2 641 62C 1 2 641 62D 1 2 641 62E 1 2 641 645 
    1 2 642 62D 1 2 642 645 1 2 643 62C 1 2 643 62D 1 2 643 62E 1 2 643 644 1 2 643 645 1 2 644 
    62C 1 2 644 62D 1 2 644 62E 1 2 644 645 1 2 644 647 1 2 645 62C 1 2 645 62D 1 2 645 62E 1 2 
    645 645 1 2 646 62C 1 2 646 62D 1 2 646 62E 1 2 646 645 1 2 646 647 1 2 647 62C 1 2 647 645 
    1 2 647 670 1 2 64A 62C 1 2 64A 62D 1 2 64A 62E 1 2 64A 645 1 2 64A 647 1 2 626 645 1 2 626 
    647 1 2 628 645 1 2 628 647 1 2 62A 645 1 2 62A 647 1 2 62B 645 1 2 62B 647 1 2 633 645 1 2 
    633 647 1 2 634 645 1 2 634 647 1 2 643 644 1 2 643 645 1 2 644 645 1 2 646 645 1 2 646 647 
    1 2 64A 645 1 2 64A 647 1 3 640 64E 651 1 3 640 64F 651 1 3 640 650 651 1 2 637 649 1 2 637 
    64A 1 2 639 649 1 2 639 64A 1 2 63A 649 1 2 63A 64A 1 2 633 649 1 2 633 64A 1 2 634 649 1 2 
    634 64A 1 2 62D 649 1 2 62D 64A 1 2 62C 649 1 2 62C 64A 1 2 62E 649 1 2 62E 64A 1 2 635 649 
    1 2 635 64A 1 2 636 649 1 2 636 64A 1 2 634 62C 1 2 634 62D 1 2 634 62E 1 2 634 645 1 2 634 
    631 1 2 633 631 1 2 635 631 1 2 636 631 1 2 637 649 1 2 637 64A 1 2 639 649 1 2 639 64A 1 2 
    63A 649 1 2 63A 64A 1 2 633 649 1 2 633 64A 1 2 634 649 1 2 634 64A 1 2 62D 649 1 2 62D 64A 
    1 2 62C 649 1 2 62C 64A 1 2 62E 649 1 2 62E 64A 1 2 635 649 1 2 635 64A 1 2 636 649 1 2 636 
    64A 1 2 634 62C 1 2 634 62D 1 2 634 62E 1 2 634 645 1 2 634 631 1 2 633 631 1 2 635 631 1 2 
    636 631 1 2 634 62C 1 2 634 62D 1 2 634 62E 1 2 634 645 1 2 633 647 1 2 634 647 1 2 637 645 
    1 2 633 62C 1 2 633 62D 1 2 633 62E 1 2 634 62C 1 2 634 62D 1 2 634 62E 1 2 637 645 1 2 638 
    645 1 2 627 64B 1 2 627 64B 13 3 62A 62C 645 1 3 62A 62D 62C 1 3 62A 62D 62C 1 3 62A 62D 
    645 1 3 62A 62E 645 1 3 62A 645 62C 1 3 62A 645 62D 1 3 62A 645 62E 1 3 62C 645 62D 1 3 62C 
    645 62D 1 3 62D 645 64A 1 3 62D 645 649 1 3 633 62D 62C 1 3 633 62C 62D 1 3 633 62C 649 1 3 
    633 645 62D 1 3 633 645 62D 1 3 633 645 62C 1 3 633 645 645 1 3 633 645 645 1 3 635 62D 62D 
    1 3 635 62D 62D 1 3 635 645 645 1 3 634 62D 645 1 3 634 62D 645 1 3 634 62C 64A 1 3 634 645 
    62E 1 3 634 645 62E 1 3 634 645 645 1 3 634 645 645 1 3 636 62D 649 1 3 636 62E 645 1 3 636 
    62E 645 1 3 637 645 62D 1 3 637 645 62D 1 3 637 645 645 1 3 637 645 64A 1 3 639 62C 645 1 3 
    639 645 645 1 3 639 645 645 1 3 639 645 649 1 3 63A 645 645 1 3 63A 645 64A 1 3 63A 645 649 
    1 3 641 62E 645 1 3 641 62E 645 1 3 642 645 62D 1 3 642 645 645 1 3 644 62D 645 1 3 644 62D 
    64A 1 3 644 62D 649 1 3 644 62C 62C 1 3 644 62C 62C 1 3 644 62E 645 1 3 644 62E 645 1 3 644 
    645 62D 1 3 644 645 62D 1 3 645 62D 62C 1 3 645 62D 645 1 3 645 62D 64A 1 3 645 62C 62D 1 3 
    645 62C 645 1 3 645 62E 62C 1 3 645 62E 645 3 3 645 62C 62E 1 3 647 645 62C 1 3 647 645 645 
    1 3 646 62D 645 1 3 646 62D 649 1 3 646 62C 645 1 3 646 62C 645 1 3 646 62C 649 1 3 646 645 
    64A 1 3 646 645 649 1 3 64A 645 645 1 3 64A 645 645 1 3 628 62E 64A 1 3 62A 62C 64A 1 3 62A 
    62C 649 1 3 62A 62E 64A 1 3 62A 62E 649 1 3 62A 645 64A 1 3 62A 645 649 1 3 62C 645 64A 1 3 
    62C 62D 649 1 3 62C 645 649 1 3 633 62E 649 1 3 635 62D 64A 1 3 634 62D 64A 1 3 636 62D 64A 
    1 3 644 62C 64A 1 3 644 645 64A 1 3 64A 62D 64A 1 3 64A 62C 64A 1 3 64A 645 64A 1 3 645 645 
    64A 1 3 642 645 64A 1 3 646 62D 64A 1 3 642 645 62D 1 3 644 62D 645 1 3 639 645 64A 1 3 643 
    645 64A 1 3 646 62C 62D 1 3 645 62E 64A 1 3 644 62C 645 1 3 643 645 645 1 3 644 62C 645 1 3 
    646 62C 62D 1 3 62C 62D 64A 1 3 62D 62C 64A 1 3 645 62C 64A 1 3 641 645 64A 1 3 628 62D 64A 
    1 3 643 645 645 1 3 639 62C 645 1 3 635 645 645 1 3 633 62E 64A 1 3 646 62C 64A 29 3 635 
    644 6D2 1 3 642 644 6D2 1 4 627 644 644 647 1 4 627 643 628 631 1 4 645 62D 645 62F 1 4 635 
    644 639 645 1 4 631 633 648 644 1 4 639 644 64A 647 1 4 648 633 644 645 1 3 635 644 649 1 
    12 635 644 649 20 627 644 644 647 20 639 644 64A 647 20 648 633 644 645 1 8 62C 644 20 62C 
    644 627 644 647 1 4 631 6CC 627 644 14 1 2C 1 1 3001 2 1 3A 1 1 3B 1 1 21 1 1 3F 1 1 3016 1 
    1 3017 19 1 2014 1 1 2013 1 1 5F 1 1 5F 1 1 28 1 1 29 1 1 7B 1 1 7D 1 1 3014 1 1 3015 1 1 
    3010 1 1 3011 1 1 300A 1 1 300B 1 1 3008 1 1 3009 7 1 5B 1 1 5D 1 2 20 305 1 2 20 305 1 2 
    20 305 1 2 20 305 1 1 5F 1 1 5F 1 1 5F 1 1 2C 1 1 3001 3 1 3B 1 1 3A 1 1 3F 1 1 21 1 1 2014 
    1 1 28 1 1 29 1 1 7B 1 1 7D 1 1 3014 1 1 3015 1 1 23 1 1 26 1 1 2A 1 1 2B 1 1 2D 1 1 3C 1 1 
    3E 1 1 3D 2 1 5C 1 1 24 1 1 25 1 1 40 5 2 20 64B 1 2 640 64B 1 2 20 64C 2 2 20 64D 2 2 20 
    64E 1 2 640 64E 1 2 20 64F 1 2 640 64F 1 2 20 650 1 2 640 650 1 2 20 651 1 2 640 651 1 2 20 
    652 1 2 640 652 1 1 621 1 1 622 1 1 622 1 1 623 1 1 623 1 1 624 1 1 624 1 1 625 1 1 625 1 1 
    626 1 1 626 1 1 626 1 1 626 1 1 627 1 1 627 1 1 628 1 1 628 1 1 628 1 1 628 1 1 629 1 1 629 
    1 1 62A 1 1 62A 1 1 62A 1 1 62A 1 1 62B 1 1 62B 1 1 62B 1 1 62B 1 1 62C 1 1 62C 1 1 62C 1 1 
    62C 1 1 62D 1 1 62D 1 1 62D 1 1 62D 1 1 62E 1 1 62E 1 1 62E 1 1 62E 1 1 62F 1 1 62F 1 1 630 
    1 1 630 1 1 631 1 1 631 1 1 632 1 1 632 1 1 633 1 1 633 1 1 633 1 1 633 1 1 634 1 1 634 1 1 
    634 1 1 634 1 1 635 1 1 635 1 1 635 1 1 635 1 1 636 1 1 636 1 1 636 1 1 636 1 1 637 1 1 637 
    1 1 637 1 1 637 1 1 638 1 1 638 1 1 638 1 1 638 1 1 639 1 1 639 1 1 639 1 1 639 1 1 63A 1 1 
    63A 1 1 63A 1 1 63A 1 1 641 1 1 641 1 1 641 1 1 641 1 1 642 1 1 642 1 1 642 1 1 642 1 1 643 
    1 1 643 1 1 643 1 1 643 1 1 644 1 1 644 1 1 644 1 1 644 1 1 645 1 1 645 1 1 645 1 1 645 1 1 
    646 1 1 646 1 1 646 1 1 646 1 1 647 1 1 647 1 1 647 1 1 647 1 1 648 1 1 648 1 1 649 1 1 649 
    1 1 64A 1 1 64A 1 1 64A 1 1 64A 1 2 644 622 1 2 644 622 1 2 644 623 1 2 644 623 1 2 644 625 
    1 2 644 625 1 2 644 627 1 2 644 627 63 1 2985 1 1 2986 1 1 2E 1 1 300C 1 1 300D 1 1 3001 1 
    1 30FB 1 1 30F2 1 1 30A1 1 1 30A3 1 1 30A5 1 1 30A7 1 1 30A9 1 1 30E3 1 1 30E5 1 1 30E7 1 1 
    30C3 1 1 30FC 1 1 30A2 1 1 30A4 1 1 30A6 1 1 30A8 1 1 30AA 1 1 30AB 1 1 30AD 1 1 30AF 1 1 
    30B1 1 1 30B3 1 1 30B5 1 1 30B7 1 1 30B9 1 1 30BB 1 1 30BD 1 1 30BF 1 1 30C1 1 1 30C4 1 1 
    30C6 1 1 30C8 7 1 30D2 1 1 30D5 1 1 30D8 1 1 30DB 6 1 30E4 1 1 30E6 7 1 30EF 1 1 30F3 1 1 
    3099 1 1 309A 2 1 1100 1 1 1101 1 1 11AA 1 1 1102 1 1 11AC 1 1 11AD A 1 111A 4 1 1121 2C 1 
    A2 1 1 A3 1 1 AC 1 2 20 304 1 1 A6 1 1 A5 1 1 20A9 2 1 2502 5 1 25A0 1 1 25CB 5A6 1 105BB 1 
    1 105BC 1EC 1 2D0 1 1 2D1 1 1 E6 1 1 299 1 1 253 2 1 2A3 1 1 AB66 1 1 2A5 1 1 2A4 1 1 256 1 
    1 257 1 1 1D91 1 1 258 1 1 25E 1 1 2A9 1 1 264 1 1 262 1 1 260 1 1 29B 1 1 127 1 1 29C 1 1 
    267 1 1 284 1 1 2AA 1 1 2AB 1 1 26C 1 1 1DF04 1 1 A78E 1 1 26E 1 1 1DF05 1 1 28E 1 1 1DF06 
    1 1 F8 1 1 276 1 1 277 1 1 71 1 1 27A 1 1 1DF08 1 1 27D 1 1 27E 1 1 280 1 1 2A8 1 1 2A6 1 1 
    AB67 1 1 2A7 1 1 288 1 1 2C71 2 1 28F 1 1 2A1 1 1 2A2 1 1 298 4 1 1DF0A 1 1 1DF1E C9A4 2 
    1D157 1D165 1 2 1D158 1D165 1 3 1D158 1D165 1D16E 1 3 1D158 1D165 1D16F 1 3 1D158 1D165 
    1D170 1 3 1D158 1D165 1D171 1 3 1D158 1D165 1D172 57 2 1D1B9 1D165 1 2 1D1BA 1D165 1 3 
    1D1B9 1D165 1D16E 1 3 1D1BA 1D165 1D16E 1 3 1D1B9 1D165 1D16F 1 3 1D1BA 1D165 1D16F 2DC 1 
    61 2 1 63 1 1 64 3 1 67 3 1 6A 1 1 6B 15 1 66 2 1 68 47 1 61 1 1 62 33 1 61 1 1 62 D 1 6F 
    15E 1 131 1 1 237 14 1 3B8 8 1 2207 12 1 3C3 8 1 2202 1 1 3B5 1 1 3B8 1 1 3BA 1 1 3C6 1 1 
    3C1 1 1 3C0 12 1 3B8 8 1 2207 12 1 3C3 8 1 2202 1 1 3B5 1 1 3B8 1 1 3BA 1 1 3C6 1 1 3C1 1 1 
    3C0 12 1 3B8 8 1 2207 12 1 3C3 8 1 2202 1 1 3B5 1 1 3B8 1 1 3BA 1 1 3C6 1 1 3C1 1 1 3C0 12 
    1 3B8 8 1 2207 12 1 3C3 8 1 2202 1 1 3B5 1 1 3B8 1 1 3BA 1 1 3C6 1 1 3C1 1 1 3C0 12 1 3B8 8 
    1 2207 12 1 3C3 8 1 2202 1 1 3B5 1 1 3B8 1 1 3BA 1 1 3C6 1 1 3C1 1 1 3C0 1 1 3DD 1 1 3DD 
    87C 1 44B 1 1 44D 1 1 44E 1 1 A689 1 1 4D9 1 1 456 1 1 458 1 1 4E9 1 1 4AF 1 1 4CF A 1 43A 
    1 1 43B 1 1 43E 1 1 43F 1 1 441 7 1 44A 1 1 44B 1 1 491 1 1 456 1 1 455 1 1 45F 1 1 4AB 1 1 
    A651 1 1 4B1 D93 1 627 1 1 628 1 1 62C 1 1 62F 2 1 648 1 1 632 1 1 62D 1 1 637 1 1 64A 5 1 
    633 1 1 639 1 1 641 1 1 635 1 1 642 1 1 631 1 1 634 1 1 62A 1 1 62B 1 1 62E 1 1 630 1 1 636 
    1 1 638 1 1 63A 1 1 66E 1 1 6BA 1 1 6A1 1 1 66F 2 1 628 1 1 62C 2 1 647 3 1 62D 2 1 64A 5 1 
    633 1 1 639 1 1 641 1 1 635 1 1 642 2 1 634 1 1 62A 1 1 62B 1 1 62E 2 1 636 2 1 63A 7 1 62C 
    5 1 62D 2 1 64A 2 1 644 2 1 646 1 1 633 1 1 639 2 1 635 1 1 642 2 1 634 3 1 62E 2 1 636 2 1 
    63A 2 1 6BA 2 1 66F 2 1 628 1 1 62C 2 1 647 3 1 62D 1 1 637 1 1 64A 1 1 643 2 1 645 1 1 646 
    1 1 633 1 1 639 1 1 641 1 1 635 1 1 642 2 1 634 1 1 62A 1 1 62B 1 1 62E 2 1 636 1 1 638 1 1 
    63A 1 1 66E 2 1 6A1 2 1 627 1 1 628 1 1 62C 1 1 62F 1 1 647 1 1 648 1 1 632 1 1 62D 1 1 637 
    1 1 64A 5 1 633 1 1 639 1 1 641 1 1 635 1 1 642 1 1 631 1 1 634 1 1 62A 1 1 62B 1 1 62E 1 1 
    630 1 1 636 1 1 638 1 1 63A 6 1 628 1 1 62C 1 1 62F 2 1 648 1 1 632 1 1 62D 1 1 637 1 1 64A 
    5 1 633 1 1 639 1 1 641 1 1 635 1 1 642 1 1 631 1 1 634 1 1 62A 1 1 62B 1 1 62E 1 1 630 1 1 
    636 1 1 638 1 1 63A 246 2 30 2C 1 2 31 2C 1 2 32 2C 1 2 33 2C 1 2 34 2C 1 2 35 2C 1 2 36 2C 
    1 2 37 2C 1 2 38 2C 1 2 39 2C 6 3 28 61 29 1 3 28 62 29 1 3 28 63 29 1 3 28 64 29 1 3 28 65 
    29 1 3 28 66 29 1 3 28 67 29 1 3 28 68 29 1 3 28 69 29 1 3 28 6A 29 1 3 28 6B 29 1 3 28 6C 
    29 1 3 28 6D 29 1 3 28 6E 29 1 3 28 6F 29 1 3 28 70 29 1 3 28 71 29 1 3 28 72 29 1 3 28 73 
    29 1 3 28 74 29 1 3 28 75 29 1 3 28 76 29 1 3 28 77 29 1 3 28 78 29 1 3 28 79 29 1 3 28 7A 
    29 1 3 3014 73 3015 1 1 63 1 1 72 1 2 63 64 1 2 77 7A 1C 2 68 76 1 2 6D 76 1 2 73 64 1 2 73 
    73 1 3 70 70 76 1 2 77 63 1B 2 6D 63 1 2 6D 64 1 2 6D 72 24 2 64 6A 70 2 307B 304B 1 2 30B3 
    30B3 1 1 30B5 E 1 624B 1 1 5B57 1 1 53CC 1 1 30C7 1 1 4E8C 1 1 591A 1 1 89E3 1 1 5929 1 1 
    4EA4 1 1 6620 1 1 7121 1 1 6599 1 1 524D 1 1 5F8C 1 1 518D 1 1 65B0 1 1 521D 1 1 7D42 1 1 
    751F 1 1 8CA9 1 1 58F0 1 1 5439 1 1 6F14 1 1 6295 1 1 6355 1 1 4E00 1 1 4E09 1 1 904A 1 1 
    5DE6 1 1 4E2D 1 1 53F3 1 1 6307 1 1 8D70 1 1 6253 1 1 7981 1 1 7A7A 1 1 5408 1 1 6E80 1 1 
    6709 1 1 6708 1 1 7533 1 1 5272 1 1 55B6 1 1 914D 5 3 3014 672C 3015 1 3 3014 4E09 3015 1 3 
    3014 4E8C 3015 1 3 3014 5B89 3015 1 3 3014 70B9 3015 1 3 3014 6253 3015 1 3 3014 76D7 3015 
    1 3 3014 52DD 3015 1 3 3014 6557 3015 8 1 5F97 1 1 53EF 105AF 1 4E3D 1 1 4E38 1 1 4E41 1 1 
    20122 1 1 4F60 1 1 4FAE 1 1 4FBB 1 1 5002 1 1 507A 1 1 5099 1 1 50E7 1 1 50CF 1 1 349E 1 1 
    2063A 1 1 514D 1 1 5154 1 1 5164 1 1 5177 1 1 2051C 1 1 34B9 1 1 5167 1 1 518D 1 1 2054B 1 
    1 5197 1 1 51A4 1 1 4ECC 1 1 51AC 1 1 51B5 1 1 291DF 1 1 51F5 1 1 5203 1 1 34DF 1 1 523B 1 
    1 5246 1 1 5272 1 1 5277 1 1 3515 1 1 52C7 1 1 52C9 1 1 52E4 1 1 52FA 1 1 5305 1 1 5306 1 1 
    5317 1 1 5349 1 1 5351 1 1 535A 1 1 5373 1 1 537D 1 1 537F 1 1 537F 1 1 537F 1 1 20A2C 1 1 
    7070 1 1 53CA 1 1 53DF 1 1 20B63 1 1 53EB 1 1 53F1 1 1 5406 1 1 549E 1 1 5438 1 1 5448 1 1 
    5468 1 1 54A2 1 1 54F6 1 1 5510 1 1 5553 1 1 5563 1 1 5584 1 1 5584 1 1 5599 1 1 55AB 1 1 
    55B3 1 1 55C2 1 1 5716 1 1 5606 1 1 5717 1 1 5651 1 1 5674 1 1 5207 1 1 58EE 1 1 57CE 1 1 
    57F4 1 1 580D 1 1 578B 1 1 5832 1 1 5831 1 1 58AC 1 1 214E4 1 1 58F2 1 1 58F7 1 1 5906 1 1 
    591A 1 1 5922 1 1 5962 1 1 216A8 1 1 216EA 1 1 59EC 1 1 5A1B 1 1 5A27 1 1 59D8 1 1 5A66 1 1 
    36EE 1 1 36FC 1 1 5B08 1 1 5B3E 1 1 5B3E 1 1 219C8 1 1 5BC3 1 1 5BD8 1 1 5BE7 1 1 5BF3 1 1 
    21B18 1 1 5BFF 1 1 5C06 1 1 5F53 1 1 5C22 1 1 3781 1 1 5C60 1 1 5C6E 1 1 5CC0 1 1 5C8D 1 1 
    21DE4 1 1 5D43 1 1 21DE6 1 1 5D6E 1 1 5D6B 1 1 5D7C 1 1 5DE1 1 1 5DE2 1 1 382F 1 1 5DFD 1 1 
    5E28 1 1 5E3D 1 1 5E69 1 1 3862 1 1 22183 1 1 387C 1 1 5EB0 1 1 5EB3 1 1 5EB6 1 1 5ECA 1 1 
    2A392 1 1 5EFE 1 1 22331 1 1 22331 1 1 8201 1 1 5F22 1 1 5F22 1 1 38C7 1 1 232B8 1 1 261DA 
    1 1 5F62 1 1 5F6B 1 1 38E3 1 1 5F9A 1 1 5FCD 1 1 5FD7 1 1 5FF9 1 1 6081 1 1 393A 1 1 391C 1 
    1 6094 1 1 226D4 1 1 60C7 1 1 6148 1 1 614C 1 1 614E 1 1 614C 1 1 617A 1 1 618E 1 1 61B2 1 
    1 61A4 1 1 61AF 1 1 61DE 1 1 61F2 1 1 61F6 1 1 6210 1 1 621B 1 1 625D 1 1 62B1 1 1 62D4 1 1 
    6350 1 1 22B0C 1 1 633D 1 1 62FC 1 1 6368 1 1 6383 1 1 63E4 1 1 22BF1 1 1 6422 1 1 63C5 1 1 
    63A9 1 1 3A2E 1 1 6469 1 1 647E 1 1 649D 1 1 6477 1 1 3A6C 1 1 654F 1 1 656C 1 1 2300A 1 1 
    65E3 1 1 66F8 1 1 6649 1 1 3B19 1 1 6691 1 1 3B08 1 1 3AE4 1 1 5192 1 1 5195 1 1 6700 1 1 
    669C 1 1 80AD 1 1 43D9 1 1 6717 1 1 671B 1 1 6721 1 1 675E 1 1 6753 1 1 233C3 1 1 3B49 1 1 
    67FA 1 1 6785 1 1 6852 1 1 6885 1 1 2346D 1 1 688E 1 1 681F 1 1 6914 1 1 3B9D 1 1 6942 1 1 
    69A3 1 1 69EA 1 1 6AA8 1 1 236A3 1 1 6ADB 1 1 3C18 1 1 6B21 1 1 238A7 1 1 6B54 1 1 3C4E 1 1 
    6B72 1 1 6B9F 1 1 6BBA 1 1 6BBB 1 1 23A8D 1 1 21D0B 1 1 23AFA 1 1 6C4E 1 1 23CBC 1 1 6CBF 1 
    1 6CCD 1 1 6C67 1 1 6D16 1 1 6D3E 1 1 6D77 1 1 6D41 1 1 6D69 1 1 6D78 1 1 6D85 1 1 23D1E 1 
    1 6D34 1 1 6E2F 1 1 6E6E 1 1 3D33 1 1 6ECB 1 1 6EC7 1 1 23ED1 1 1 6DF9 1 1 6F6E 1 1 23F5E 1 
    1 23F8E 1 1 6FC6 1 1 7039 1 1 701E 1 1 701B 1 1 3D96 1 1 704A 1 1 707D 1 1 7077 1 1 70AD 1 
    1 20525 1 1 7145 1 1 24263 1 1 719C 1 1 243AB 1 1 7228 1 1 7235 1 1 7250 1 1 24608 1 1 7280 
    1 1 7295 1 1 24735 1 1 24814 1 1 737A 1 1 738B 1 1 3EAC 1 1 73A5 1 1 3EB8 1 1 3EB8 1 1 7447 
    1 1 745C 1 1 7471 1 1 7485 1 1 74CA 1 1 3F1B 1 1 7524 1 1 24C36 1 1 753E 1 1 24C92 1 1 7570 
    1 1 2219F 1 1 7610 1 1 24FA1 1 1 24FB8 1 1 25044 1 1 3FFC 1 1 4008 1 1 76F4 1 1 250F3 1 1 
    250F2 1 1 25119 1 1 25133 1 1 771E 1 1 771F 1 1 771F 1 1 774A 1 1 4039 1 1 778B 1 1 4046 1 
    1 4096 1 1 2541D 1 1 784E 1 1 788C 1 1 78CC 1 1 40E3 1 1 25626 1 1 7956 1 1 2569A 1 1 256C5 
    1 1 798F 1 1 79EB 1 1 412F 1 1 7A40 1 1 7A4A 1 1 7A4F 1 1 2597C 1 1 25AA7 1 1 25AA7 1 1 
    7AEE 1 1 4202 1 1 25BAB 1 1 7BC6 1 1 7BC9 1 1 4227 1 1 25C80 1 1 7CD2 1 1 42A0 1 1 7CE8 1 1 
    7CE3 1 1 7D00 1 1 25F86 1 1 7D63 1 1 4301 1 1 7DC7 1 1 7E02 1 1 7E45 1 1 4334 1 1 26228 1 1 
    26247 1 1 4359 1 1 262D9 1 1 7F7A 1 1 2633E 1 1 7F95 1 1 7FFA 1 1 8005 1 1 264DA 1 1 26523 
    1 1 8060 1 1 265A8 1 1 8070 1 1 2335F 1 1 43D5 1 1 80B2 1 1 8103 1 1 440B 1 1 813E 1 1 5AB5 
    1 1 267A7 1 1 267B5 1 1 23393 1 1 2339C 1 1 8201 1 1 8204 1 1 8F9E 1 1 446B 1 1 8291 1 1 
    828B 1 1 829D 1 1 52B3 1 1 82B1 1 1 82B3 1 1 82BD 1 1 82E6 1 1 26B3C 1 1 82E5 1 1 831D 1 1 
    8363 1 1 83AD 1 1 8323 1 1 83BD 1 1 83E7 1 1 8457 1 1 8353 1 1 83CA 1 1 83CC 1 1 83DC 1 1 
    26C36 1 1 26D6B 1 1 26CD5 1 1 452B 1 1 84F1 1 1 84F3 1 1 8516 1 1 273CA 1 1 8564 1 1 26F2C 
    1 1 455D 1 1 4561 1 1 26FB1 1 1 270D2 1 1 456B 1 1 8650 1 1 865C 1 1 8667 1 1 8669 1 1 86A9 
    1 1 8688 1 1 870E 1 1 86E2 1 1 8779 1 1 8728 1 1 876B 1 1 8786 1 1 45D7 1 1 87E1 1 1 8801 1 
    1 45F9 1 1 8860 1 1 8863 1 1 27667 1 1 88D7 1 1 88DE 1 1 4635 1 1 88FA 1 1 34BB 1 1 278AE 1 
    1 27966 1 1 46BE 1 1 46C7 1 1 8AA0 1 1 8AED 1 1 8B8A 1 1 8C55 1 1 27CA8 1 1 8CAB 1 1 8CC1 1 
    1 8D1B 1 1 8D77 1 1 27F2F 1 1 20804 1 1 8DCB 1 1 8DBC 1 1 8DF0 1 1 208DE 1 1 8ED4 1 1 8F38 
    1 1 285D2 1 1 285ED 1 1 9094 1 1 90F1 1 1 9111 1 1 2872E 1 1 911B 1 1 9238 1 1 92D7 1 1 
    92D8 1 1 927C 1 1 93F9 1 1 9415 1 1 28BFA 1 1 958B 1 1 4995 1 1 95B7 1 1 28D77 1 1 49E6 1 1 
    96C3 1 1 5DB2 1 1 9723 1 1 29145 1 1 2921A 1 1 4A6E 1 1 4A76 1 1 97E0 1 1 2940A 1 1 4AB2 1 
    1 29496 1 1 980B 1 1 980B 1 1 9829 1 1 295B6 1 1 98E2 1 1 4B33 1 1 9929 1 1 99A7 1 1 99C2 1 
    1 99FE 1 1 4BCE 1 1 29B30 1 1 9B12 1 1 9C40 1 1 9CFD 1 1 4CCE 1 1 4CED 1 1 9D67 1 1 2A0CE 1 
    1 4CF8 1 1 2A105 1 1 2A20E 1 1 2A291 1 1 9EBB 1 1 4D56 1 1 9EF9 1 1 9EFE 1 1 9F05 1 1 9F0F 
    1 1 9F16 1 1 9F3B 1 1 2A600")).toArray

end SyscallMeter.Web
