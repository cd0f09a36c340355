import Svmm.Construction.Ps2

/-!
# Key events

`scancodes.c` and `Ps2GenerateScancode` of `ps2.c`: what a key sends when it is pressed and when it
is released in each of the three scan-code sets, the table that translates to the first set, and
the function that puts a sequence into the memory of the keyboard, byte by byte.
-/

namespace Svmm

/-- `struct SCANCODE`: the strings `Make` and `Break`, up to their end. -/
structure Scancode where
  makeCode : List (BitVec 8)
  breakCode : List (BitVec 8)
  deriving DecidableEq

/-- `BX_KEY_NBKEYS`, and the bit of `BX_KEY_RELEASED`. -/
def bxKeyNbkeys : BitVec 32 := 119
def bxKeyReleased : ℕ := 31

/-- `translation8042`. -/
def translation8042 : List (BitVec 8) := [
  0xff, 0x43, 0x41, 0x3f, 0x3d, 0x3b, 0x3c, 0x58, 0x64, 0x44, 0x42, 0x40, 0x3e, 0x0f, 0x29, 0x59,
  0x65, 0x38, 0x2a, 0x70, 0x1d, 0x10, 0x02, 0x5a, 0x66, 0x71, 0x2c, 0x1f, 0x1e, 0x11, 0x03, 0x5b,
  0x67, 0x2e, 0x2d, 0x20, 0x12, 0x05, 0x04, 0x5c, 0x68, 0x39, 0x2f, 0x21, 0x14, 0x13, 0x06, 0x5d,
  0x69, 0x31, 0x30, 0x23, 0x22, 0x15, 0x07, 0x5e, 0x6a, 0x72, 0x32, 0x24, 0x16, 0x08, 0x09, 0x5f,
  0x6b, 0x33, 0x25, 0x17, 0x18, 0x0b, 0x0a, 0x60, 0x6c, 0x34, 0x35, 0x26, 0x27, 0x19, 0x0c, 0x61,
  0x6d, 0x73, 0x28, 0x74, 0x1a, 0x0d, 0x62, 0x6e, 0x3a, 0x36, 0x1c, 0x1b, 0x75, 0x2b, 0x63, 0x76,
  0x55, 0x56, 0x77, 0x78, 0x79, 0x7a, 0x0e, 0x7b, 0x7c, 0x4f, 0x7d, 0x4b, 0x47, 0x7e, 0x7f, 0x6f,
  0x52, 0x53, 0x50, 0x4c, 0x4d, 0x48, 0x01, 0x45, 0x57, 0x4e, 0x51, 0x4a, 0x37, 0x49, 0x46, 0x54,
  0x80, 0x81, 0x82, 0x41, 0x54, 0x85, 0x86, 0x87, 0x88, 0x89, 0x8a, 0x8b, 0x8c, 0x8d, 0x8e, 0x8f,
  0x90, 0x91, 0x92, 0x93, 0x94, 0x95, 0x96, 0x97, 0x98, 0x99, 0x9a, 0x9b, 0x9c, 0x9d, 0x9e, 0x9f,
  0xa0, 0xa1, 0xa2, 0xa3, 0xa4, 0xa5, 0xa6, 0xa7, 0xa8, 0xa9, 0xaa, 0xab, 0xac, 0xad, 0xae, 0xaf,
  0xb0, 0xb1, 0xb2, 0xb3, 0xb4, 0xb5, 0xb6, 0xb7, 0xb8, 0xb9, 0xba, 0xbb, 0xbc, 0xbd, 0xbe, 0xbf,
  0xc0, 0xc1, 0xc2, 0xc3, 0xc4, 0xc5, 0xc6, 0xc7, 0xc8, 0xc9, 0xca, 0xcb, 0xcc, 0xcd, 0xce, 0xcf,
  0xd0, 0xd1, 0xd2, 0xd3, 0xd4, 0xd5, 0xd6, 0xd7, 0xd8, 0xd9, 0xda, 0xdb, 0xdc, 0xdd, 0xde, 0xdf,
  0xe0, 0xe1, 0xe2, 0xe3, 0xe4, 0xe5, 0xe6, 0xe7, 0xe8, 0xe9, 0xea, 0xeb, 0xec, 0xed, 0xee, 0xef,
  0xf0, 0xf1, 0xf2, 0xf3, 0xf4, 0xf5, 0xf6, 0xf7, 0xf8, 0xf9, 0xfa, 0xfb, 0xfc, 0xfd, 0xfe, 0xff]

/-- `scancodes`, in the order of the key codes: one row a key, with its three sets. -/
def scancodes : List (List Scancode) := [
  -- BX_KEY_CTRL_L to BX_KEY_F8
  [⟨[0x1d], [0x9d]⟩, ⟨[0x14], [0xf0, 0x14]⟩, ⟨[0x11], [0xf0, 0x11]⟩],
  [⟨[0x2a], [0xaa]⟩, ⟨[0x12], [0xf0, 0x12]⟩, ⟨[0x12], [0xf0, 0x12]⟩],
  [⟨[0x3b], [0xbb]⟩, ⟨[0x05], [0xf0, 0x05]⟩, ⟨[0x07], [0xf0, 0x07]⟩],
  [⟨[0x3c], [0xbc]⟩, ⟨[0x06], [0xf0, 0x06]⟩, ⟨[0x0f], [0xf0, 0x0f]⟩],
  [⟨[0x3d], [0xbd]⟩, ⟨[0x04], [0xf0, 0x04]⟩, ⟨[0x17], [0xf0, 0x17]⟩],
  [⟨[0x3e], [0xbe]⟩, ⟨[0x0c], [0xf0, 0x0c]⟩, ⟨[0x1f], [0xf0, 0x1f]⟩],
  [⟨[0x3f], [0xbf]⟩, ⟨[0x03], [0xf0, 0x03]⟩, ⟨[0x27], [0xf0, 0x27]⟩],
  [⟨[0x40], [0xc0]⟩, ⟨[0x0b], [0xf0, 0x0b]⟩, ⟨[0x2f], [0xf0, 0x2f]⟩],
  [⟨[0x41], [0xc1]⟩, ⟨[0x83], [0xf0, 0x83]⟩, ⟨[0x37], [0xf0, 0x37]⟩],
  [⟨[0x42], [0xc2]⟩, ⟨[0x0a], [0xf0, 0x0a]⟩, ⟨[0x3f], [0xf0, 0x3f]⟩],
  -- BX_KEY_F9 to BX_KEY_ALT_R
  [⟨[0x43], [0xc3]⟩, ⟨[0x01], [0xf0, 0x01]⟩, ⟨[0x47], [0xf0, 0x47]⟩],
  [⟨[0x44], [0xc4]⟩, ⟨[0x09], [0xf0, 0x09]⟩, ⟨[0x4f], [0xf0, 0x4f]⟩],
  [⟨[0x57], [0xd7]⟩, ⟨[0x78], [0xf0, 0x78]⟩, ⟨[0x56], [0xf0, 0x56]⟩],
  [⟨[0x58], [0xd8]⟩, ⟨[0x07], [0xf0, 0x07]⟩, ⟨[0x5e], [0xf0, 0x5e]⟩],
  [⟨[0xe0, 0x1d], [0xe0, 0x9d]⟩, ⟨[0xe0, 0x14], [0xe0, 0xf0, 0x14]⟩, ⟨[0x58], [0xf0, 0x58]⟩],
  [⟨[0x36], [0xb6]⟩, ⟨[0x59], [0xf0, 0x59]⟩, ⟨[0x59], [0xf0, 0x59]⟩],
  [⟨[0x3a], [0xba]⟩, ⟨[0x58], [0xf0, 0x58]⟩, ⟨[0x14], [0xf0, 0x14]⟩],
  [⟨[0x45], [0xc5]⟩, ⟨[0x77], [0xf0, 0x77]⟩, ⟨[0x76], [0xf0, 0x76]⟩],
  [⟨[0x38], [0xb8]⟩, ⟨[0x11], [0xf0, 0x11]⟩, ⟨[0x19], [0xf0, 0x19]⟩],
  [⟨[0xe0, 0x38], [0xe0, 0xb8]⟩, ⟨[0xe0, 0x11], [0xe0, 0xf0, 0x11]⟩, ⟨[0x39], [0xf0, 0x39]⟩],
  -- BX_KEY_A to BX_KEY_J
  [⟨[0x1e], [0x9e]⟩, ⟨[0x1c], [0xf0, 0x1c]⟩, ⟨[0x1c], [0xf0, 0x1c]⟩],
  [⟨[0x30], [0xb0]⟩, ⟨[0x32], [0xf0, 0x32]⟩, ⟨[0x32], [0xf0, 0x32]⟩],
  [⟨[0x2e], [0xae]⟩, ⟨[0x21], [0xf0, 0x21]⟩, ⟨[0x21], [0xf0, 0x21]⟩],
  [⟨[0x20], [0xa0]⟩, ⟨[0x23], [0xf0, 0x23]⟩, ⟨[0x23], [0xf0, 0x23]⟩],
  [⟨[0x12], [0x92]⟩, ⟨[0x24], [0xf0, 0x24]⟩, ⟨[0x24], [0xf0, 0x24]⟩],
  [⟨[0x21], [0xa1]⟩, ⟨[0x2b], [0xf0, 0x2b]⟩, ⟨[0x2b], [0xf0, 0x2b]⟩],
  [⟨[0x22], [0xa2]⟩, ⟨[0x34], [0xf0, 0x34]⟩, ⟨[0x34], [0xf0, 0x34]⟩],
  [⟨[0x23], [0xa3]⟩, ⟨[0x33], [0xf0, 0x33]⟩, ⟨[0x33], [0xf0, 0x33]⟩],
  [⟨[0x17], [0x97]⟩, ⟨[0x43], [0xf0, 0x43]⟩, ⟨[0x43], [0xf0, 0x43]⟩],
  [⟨[0x24], [0xa4]⟩, ⟨[0x3b], [0xf0, 0x3b]⟩, ⟨[0x3b], [0xf0, 0x3b]⟩],
  -- BX_KEY_K to BX_KEY_T
  [⟨[0x25], [0xa5]⟩, ⟨[0x42], [0xf0, 0x42]⟩, ⟨[0x42], [0xf0, 0x42]⟩],
  [⟨[0x26], [0xa6]⟩, ⟨[0x4b], [0xf0, 0x4b]⟩, ⟨[0x4b], [0xf0, 0x4b]⟩],
  [⟨[0x32], [0xb2]⟩, ⟨[0x3a], [0xf0, 0x3a]⟩, ⟨[0x3a], [0xf0, 0x3a]⟩],
  [⟨[0x31], [0xb1]⟩, ⟨[0x31], [0xf0, 0x31]⟩, ⟨[0x31], [0xf0, 0x31]⟩],
  [⟨[0x18], [0x98]⟩, ⟨[0x44], [0xf0, 0x44]⟩, ⟨[0x44], [0xf0, 0x44]⟩],
  [⟨[0x19], [0x99]⟩, ⟨[0x4d], [0xf0, 0x4d]⟩, ⟨[0x4d], [0xf0, 0x4d]⟩],
  [⟨[0x10], [0x90]⟩, ⟨[0x15], [0xf0, 0x15]⟩, ⟨[0x15], [0xf0, 0x15]⟩],
  [⟨[0x13], [0x93]⟩, ⟨[0x2d], [0xf0, 0x2d]⟩, ⟨[0x2d], [0xf0, 0x2d]⟩],
  [⟨[0x1f], [0x9f]⟩, ⟨[0x1b], [0xf0, 0x1b]⟩, ⟨[0x1b], [0xf0, 0x1b]⟩],
  [⟨[0x14], [0x94]⟩, ⟨[0x2c], [0xf0, 0x2c]⟩, ⟨[0x2c], [0xf0, 0x2c]⟩],
  -- BX_KEY_U to BX_KEY_3
  [⟨[0x16], [0x96]⟩, ⟨[0x3c], [0xf0, 0x3c]⟩, ⟨[0x3c], [0xf0, 0x3c]⟩],
  [⟨[0x2f], [0xaf]⟩, ⟨[0x2a], [0xf0, 0x2a]⟩, ⟨[0x2a], [0xf0, 0x2a]⟩],
  [⟨[0x11], [0x91]⟩, ⟨[0x1d], [0xf0, 0x1d]⟩, ⟨[0x1d], [0xf0, 0x1d]⟩],
  [⟨[0x2d], [0xad]⟩, ⟨[0x22], [0xf0, 0x22]⟩, ⟨[0x22], [0xf0, 0x22]⟩],
  [⟨[0x15], [0x95]⟩, ⟨[0x35], [0xf0, 0x35]⟩, ⟨[0x35], [0xf0, 0x35]⟩],
  [⟨[0x2c], [0xac]⟩, ⟨[0x1a], [0xf0, 0x1a]⟩, ⟨[0x1a], [0xf0, 0x1a]⟩],
  [⟨[0x0b], [0x8b]⟩, ⟨[0x45], [0xf0, 0x45]⟩, ⟨[0x45], [0xf0, 0x45]⟩],
  [⟨[0x02], [0x82]⟩, ⟨[0x16], [0xf0, 0x16]⟩, ⟨[0x16], [0xf0, 0x16]⟩],
  [⟨[0x03], [0x83]⟩, ⟨[0x1e], [0xf0, 0x1e]⟩, ⟨[0x1e], [0xf0, 0x1e]⟩],
  [⟨[0x04], [0x84]⟩, ⟨[0x26], [0xf0, 0x26]⟩, ⟨[0x26], [0xf0, 0x26]⟩],
  -- BX_KEY_4 to BX_KEY_COMMA
  [⟨[0x05], [0x85]⟩, ⟨[0x25], [0xf0, 0x25]⟩, ⟨[0x25], [0xf0, 0x25]⟩],
  [⟨[0x06], [0x86]⟩, ⟨[0x2e], [0xf0, 0x2e]⟩, ⟨[0x2e], [0xf0, 0x2e]⟩],
  [⟨[0x07], [0x87]⟩, ⟨[0x36], [0xf0, 0x36]⟩, ⟨[0x36], [0xf0, 0x36]⟩],
  [⟨[0x08], [0x88]⟩, ⟨[0x3d], [0xf0, 0x3d]⟩, ⟨[0x3d], [0xf0, 0x3d]⟩],
  [⟨[0x09], [0x89]⟩, ⟨[0x3e], [0xf0, 0x3e]⟩, ⟨[0x3e], [0xf0, 0x3e]⟩],
  [⟨[0x0a], [0x8a]⟩, ⟨[0x46], [0xf0, 0x46]⟩, ⟨[0x46], [0xf0, 0x46]⟩],
  [⟨[0x01], [0x81]⟩, ⟨[0x76], [0xf0, 0x76]⟩, ⟨[0x08], [0xf0, 0x08]⟩],
  [⟨[0x39], [0xb9]⟩, ⟨[0x29], [0xf0, 0x29]⟩, ⟨[0x29], [0xf0, 0x29]⟩],
  [⟨[0x28], [0xa8]⟩, ⟨[0x52], [0xf0, 0x52]⟩, ⟨[0x52], [0xf0, 0x52]⟩],
  [⟨[0x33], [0xb3]⟩, ⟨[0x41], [0xf0, 0x41]⟩, ⟨[0x41], [0xf0, 0x41]⟩],
  -- BX_KEY_PERIOD to BX_KEY_BACKSPACE
  [⟨[0x34], [0xb4]⟩, ⟨[0x49], [0xf0, 0x49]⟩, ⟨[0x49], [0xf0, 0x49]⟩],
  [⟨[0x35], [0xb5]⟩, ⟨[0x4a], [0xf0, 0x4a]⟩, ⟨[0x4a], [0xf0, 0x4a]⟩],
  [⟨[0x27], [0xa7]⟩, ⟨[0x4c], [0xf0, 0x4c]⟩, ⟨[0x4c], [0xf0, 0x4c]⟩],
  [⟨[0x0d], [0x8d]⟩, ⟨[0x55], [0xf0, 0x55]⟩, ⟨[0x55], [0xf0, 0x55]⟩],
  [⟨[0x1a], [0x9a]⟩, ⟨[0x54], [0xf0, 0x54]⟩, ⟨[0x54], [0xf0, 0x54]⟩],
  [⟨[0x2b], [0xab]⟩, ⟨[0x5d], [0xf0, 0x5d]⟩, ⟨[0x53], [0xf0, 0x53]⟩],
  [⟨[0x1b], [0x9b]⟩, ⟨[0x5b], [0xf0, 0x5b]⟩, ⟨[0x5b], [0xf0, 0x5b]⟩],
  [⟨[0x0c], [0x8c]⟩, ⟨[0x4e], [0xf0, 0x4e]⟩, ⟨[0x4e], [0xf0, 0x4e]⟩],
  [⟨[0x29], [0xa9]⟩, ⟨[0x0e], [0xf0, 0x0e]⟩, ⟨[0x0e], [0xf0, 0x0e]⟩],
  [⟨[0x0e], [0x8e]⟩, ⟨[0x66], [0xf0, 0x66]⟩, ⟨[0x66], [0xf0, 0x66]⟩],
  -- BX_KEY_ENTER to BX_KEY_END
  [⟨[0x1c], [0x9c]⟩, ⟨[0x5a], [0xf0, 0x5a]⟩, ⟨[0x5a], [0xf0, 0x5a]⟩],
  [⟨[0x0f], [0x8f]⟩, ⟨[0x0d], [0xf0, 0x0d]⟩, ⟨[0x0d], [0xf0, 0x0d]⟩],
  [⟨[0x56], [0xd6]⟩, ⟨[0x61], [0xf0, 0x61]⟩, ⟨[0x13], [0xf0, 0x13]⟩],
  [⟨[0xe0, 0x2a, 0xe0, 0x37], [0xe0, 0xb7, 0xe0, 0xaa]⟩,
    ⟨[0xe0, 0x12, 0xe0, 0x7c], [0xe0, 0xf0, 0x7c, 0xe0, 0xf0, 0x12]⟩,
    ⟨[0x57], [0xf0, 0x57]⟩],
  [⟨[0x46], [0xc6]⟩, ⟨[0x7e], [0xf0, 0x7e]⟩, ⟨[0x5f], [0xf0, 0x5f]⟩],
  [⟨[0xe1, 0x1d, 0x45, 0xe1, 0x9d, 0xc5], []⟩,
    ⟨[0xe1, 0x14, 0x77, 0xe1, 0xf0, 0x14, 0xf0, 0x77], []⟩,
    ⟨[0x62], [0xf0, 0x62]⟩],
  [⟨[0xe0, 0x52], [0xe0, 0xd2]⟩, ⟨[0xe0, 0x70], [0xe0, 0xf0, 0x70]⟩, ⟨[0x67], [0xf0, 0x67]⟩],
  [⟨[0xe0, 0x53], [0xe0, 0xd3]⟩, ⟨[0xe0, 0x71], [0xe0, 0xf0, 0x71]⟩, ⟨[0x64], [0xf0, 0x64]⟩],
  [⟨[0xe0, 0x47], [0xe0, 0xc7]⟩, ⟨[0xe0, 0x6c], [0xe0, 0xf0, 0x6c]⟩, ⟨[0x6e], [0xf0, 0x6e]⟩],
  [⟨[0xe0, 0x4f], [0xe0, 0xcf]⟩, ⟨[0xe0, 0x69], [0xe0, 0xf0, 0x69]⟩, ⟨[0x65], [0xf0, 0x65]⟩],
  -- BX_KEY_PAGE_UP to BX_KEY_KP_HOME
  [⟨[0xe0, 0x49], [0xe0, 0xc9]⟩, ⟨[0xe0, 0x7d], [0xe0, 0xf0, 0x7d]⟩, ⟨[0x6f], [0xf0, 0x6f]⟩],
  [⟨[0xe0, 0x51], [0xe0, 0xd1]⟩, ⟨[0xe0, 0x7a], [0xe0, 0xf0, 0x7a]⟩, ⟨[0x6d], [0xf0, 0x6d]⟩],
  [⟨[0x4e], [0xce]⟩, ⟨[0x79], [0xf0, 0x79]⟩, ⟨[0x7c], [0xf0, 0x7c]⟩],
  [⟨[0x4a], [0xca]⟩, ⟨[0x7b], [0xf0, 0x7b]⟩, ⟨[0x84], [0xf0, 0x84]⟩],
  [⟨[0x4f], [0xcf]⟩, ⟨[0x69], [0xf0, 0x69]⟩, ⟨[0x69], [0xf0, 0x69]⟩],
  [⟨[0x50], [0xd0]⟩, ⟨[0x72], [0xf0, 0x72]⟩, ⟨[0x72], [0xf0, 0x72]⟩],
  [⟨[0x51], [0xd1]⟩, ⟨[0x7a], [0xf0, 0x7a]⟩, ⟨[0x7a], [0xf0, 0x7a]⟩],
  [⟨[0x4b], [0xcb]⟩, ⟨[0x6b], [0xf0, 0x6b]⟩, ⟨[0x6b], [0xf0, 0x6b]⟩],
  [⟨[0x4d], [0xcd]⟩, ⟨[0x74], [0xf0, 0x74]⟩, ⟨[0x74], [0xf0, 0x74]⟩],
  [⟨[0x47], [0xc7]⟩, ⟨[0x6c], [0xf0, 0x6c]⟩, ⟨[0x6c], [0xf0, 0x6c]⟩],
  -- BX_KEY_KP_UP to BX_KEY_KP_ENTER
  [⟨[0x48], [0xc8]⟩, ⟨[0x75], [0xf0, 0x75]⟩, ⟨[0x75], [0xf0, 0x75]⟩],
  [⟨[0x49], [0xc9]⟩, ⟨[0x7d], [0xf0, 0x7d]⟩, ⟨[0x7d], [0xf0, 0x7d]⟩],
  [⟨[0x52], [0xd2]⟩, ⟨[0x70], [0xf0, 0x70]⟩, ⟨[0x70], [0xf0, 0x70]⟩],
  [⟨[0x53], [0xd3]⟩, ⟨[0x71], [0xf0, 0x71]⟩, ⟨[0x71], [0xf0, 0x71]⟩],
  [⟨[0x4c], [0xcc]⟩, ⟨[0x73], [0xf0, 0x73]⟩, ⟨[0x73], [0xf0, 0x73]⟩],
  [⟨[0xe0, 0x48], [0xe0, 0xc8]⟩, ⟨[0xe0, 0x75], [0xe0, 0xf0, 0x75]⟩, ⟨[0x63], [0xf0, 0x63]⟩],
  [⟨[0xe0, 0x50], [0xe0, 0xd0]⟩, ⟨[0xe0, 0x72], [0xe0, 0xf0, 0x72]⟩, ⟨[0x60], [0xf0, 0x60]⟩],
  [⟨[0xe0, 0x4b], [0xe0, 0xcb]⟩, ⟨[0xe0, 0x6b], [0xe0, 0xf0, 0x6b]⟩, ⟨[0x61], [0xf0, 0x61]⟩],
  [⟨[0xe0, 0x4d], [0xe0, 0xcd]⟩, ⟨[0xe0, 0x74], [0xe0, 0xf0, 0x74]⟩, ⟨[0x6a], [0xf0, 0x6a]⟩],
  [⟨[0xe0, 0x1c], [0xe0, 0x9c]⟩, ⟨[0xe0, 0x5a], [0xe0, 0xf0, 0x5a]⟩, ⟨[0x79], [0xf0, 0x79]⟩],
  -- BX_KEY_KP_MULTIPLY to BX_KEY_INT_STOP
  [⟨[0x37], [0xb7]⟩, ⟨[0x7c], [0xf0, 0x7c]⟩, ⟨[0x7e], [0xf0, 0x7e]⟩],
  [⟨[0xe0, 0x35], [0xe0, 0xb5]⟩, ⟨[0xe0, 0x4a], [0xe0, 0xf0, 0x4a]⟩, ⟨[0x77], [0xf0, 0x77]⟩],
  [⟨[0xe0, 0x5b], [0xe0, 0xdb]⟩, ⟨[0xe0, 0x1f], [0xe0, 0xf0, 0x1f]⟩, ⟨[0x8b], [0xf0, 0x8b]⟩],
  [⟨[0xe0, 0x5c], [0xe0, 0xdc]⟩, ⟨[0xe0, 0x27], [0xe0, 0xf0, 0x27]⟩, ⟨[0x8c], [0xf0, 0x8c]⟩],
  [⟨[0xe0, 0x5d], [0xe0, 0xdd]⟩, ⟨[0xe0, 0x2f], [0xe0, 0xf0, 0x2f]⟩, ⟨[0x8d], [0xf0, 0x8d]⟩],
  [⟨[0x54], [0xd4]⟩, ⟨[0x84], [0xf0, 0x84]⟩, ⟨[0x57], [0xf0, 0x57]⟩],
  [⟨[0xe0, 0x46], [0xe0, 0xc6]⟩, ⟨[0xe0, 0x7e], [0xe0, 0xf0, 0x7e]⟩, ⟨[0x62], [0xf0, 0x62]⟩],
  [⟨[0xe0, 0x6a], [0xe0, 0xea]⟩, ⟨[0xe0, 0x38], [0xe0, 0xf0, 0x38]⟩, ⟨[0x38], [0xf0, 0x38]⟩],
  [⟨[0xe0, 0x69], [0xe0, 0xe9]⟩, ⟨[0xe0, 0x30], [0xe0, 0xf0, 0x30]⟩, ⟨[0x30], [0xf0, 0x30]⟩],
  [⟨[0xe0, 0x68], [0xe0, 0xe8]⟩, ⟨[0xe0, 0x28], [0xe0, 0xf0, 0x28]⟩, ⟨[0x28], [0xf0, 0x28]⟩],
  -- BX_KEY_INT_MAIL to BX_KEY_POWER_WAKE
  [⟨[0xe0, 0x6c], [0xe0, 0xec]⟩, ⟨[0xe0, 0x48], [0xe0, 0xf0, 0x48]⟩, ⟨[0x48], [0xf0, 0x48]⟩],
  [⟨[0xe0, 0x65], [0xe0, 0xe5]⟩, ⟨[0xe0, 0x10], [0xe0, 0xf0, 0x10]⟩, ⟨[0x10], [0xf0, 0x10]⟩],
  [⟨[0xe0, 0x66], [0xe0, 0xe6]⟩, ⟨[0xe0, 0x18], [0xe0, 0xf0, 0x18]⟩, ⟨[0x18], [0xf0, 0x18]⟩],
  [⟨[0xe0, 0x32], [0xe0, 0xb2]⟩, ⟨[0xe0, 0x3a], [0xe0, 0xf0, 0x3a]⟩, ⟨[0x97], [0xf0, 0x97]⟩],
  [⟨[0xe0, 0x6b], [0xe0, 0xeb]⟩, ⟨[0xe0, 0x40], [0xe0, 0xf0, 0x40]⟩, ⟨[0x40], [0xf0, 0x40]⟩],
  [⟨[0xe0, 0x21], [0xe0, 0xa1]⟩, ⟨[0xe0, 0x2b], [0xe0, 0xf0, 0x2b]⟩, ⟨[0x99], [0xf0, 0x99]⟩],
  [⟨[0xe0, 0x5f], [0xe0, 0xdf]⟩, ⟨[0xe0, 0x3f], [0xe0, 0xf0, 0x3f]⟩, ⟨[0x7f], [0xf0, 0x7f]⟩],
  [⟨[0xe0, 0x5e], [0xe0, 0xde]⟩, ⟨[0xe0, 0x37], [0xe0, 0xf0, 0x37]⟩, ⟨[], []⟩],
  [⟨[0xe0, 0x63], [0xe0, 0xe3]⟩, ⟨[0xe0, 0x5e], [0xe0, 0xf0, 0x5e]⟩, ⟨[], []⟩]]

/-- The entry of a key in a set. -/
def scancode (key : ℕ) (set : ℕ) : Scancode := ((scancodes.getD key []).getD set ⟨[], []⟩)

/-- An entry of `translation8042`. -/
def translate8042 (b : BitVec 8) : BitVec 8 := translation8042.getD b.toNat 0

namespace Ps2

/-- A turn of the loop that translates: the prefix `0xf0` goes into the next byte. -/
def sendTranslated (s : BitVec 8 × Ps2) (b : BitVec 8) : BitVec 8 × Ps2 :=
  if b ≠ 0xf0 then (0, s.2.writeKeyboardMemory (translate8042 b ||| s.1)) else (0x80, s.2)

/-- `Ps2GenerateScancode`. -/
def generateScancode (key : BitVec 32) (s : Ps2) : Ps2 :=
  if bxKeyNbkeys ≤ key then s
  else
    let entry := scancode key.toNat s.keyboard.scanCodeSet.toNat
    let code := if Word.has key bxKeyReleased then entry.breakCode else entry.makeCode
    if Word.has s.dataRegister dataScanCode then (code.foldl sendTranslated (0, s)).2
    else code.foldl (fun s b => s.writeKeyboardMemory b) s

end Ps2

end Svmm
