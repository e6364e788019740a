/-!
# Glyph shapes

The lit pixels of two fixed width fonts, for the printable ASCII characters from the space to the
tilde in order. A glyph is a hexadecimal number with two digits for each column, the leftmost
column in front; the lowest bit of a column is its top row.
-/

namespace Marquee.Glyphs

/-- The first character with a shape of its own. -/
def firstCode : Nat := 0x20

/-- Shapes of five columns and seven rows. -/
def fiveBySeven : Array Nat := #[
  0x0000000000, 0x00002f0000, 0x0007000700, 0x143e143e14, 0x042a3e2a10, 0x1308043200,
  0x142a142000, 0x0000070000, 0x001e210000, 0x00211e0000, 0x002a1c2a00, 0x08083e0808,
  0x0040301000, 0x0808080800, 0x0030300000, 0x1008040200, 0x001e211e00, 0x00223f2000,
  0x2231292600, 0x1125251b00, 0x0c0a3f0800, 0x1725251900, 0x1e25251800, 0x01310d0300,
  0x1a25251a00, 0x0629291e00, 0x0036360000, 0x4036160000, 0x0008142200, 0x1414141400,
  0x0022140800, 0x0002290600, 0x1e212d0e00, 0x3e09093e00, 0x3f25251a00, 0x1e21211200,
  0x3f21211e00, 0x3f25252100, 0x3f05050100, 0x1e21293a00, 0x3f04043f00, 0x00213f2100,
  0x1020201f00, 0x3f0c122100, 0x3f20202000, 0x3f06063f00, 0x3f06183f00, 0x1e21211e00,
  0x3f09090600, 0x1e31215e00, 0x3f09192600, 0x1225291200, 0x00013f0100, 0x1f20201f00,
  0x0f30300f00, 0x3f18183f00, 0x330c0c3300, 0x0007380700, 0x3129252300, 0x003f212100,
  0x0204081000, 0x0021213f00, 0x0002010200, 0x2020202000, 0x0001020000, 0x1824143c00,
  0x3f24241800, 0x1824240000, 0x1824243f00, 0x18342c0800, 0x083e090200, 0x2854544c00,
  0x3f04043800, 0x00243d2000, 0x0020403d00, 0x3f08142000, 0x00213f2000, 0x3c080c3800,
  0x3c04043800, 0x1824241800, 0x7c24241800, 0x1824247c00, 0x3c04040800, 0x282c341400,
  0x041f242000, 0x1c20203c00, 0x001c201c00, 0x3c30303c00, 0x2418182400, 0x0c50201c00,
  0x24342c2400, 0x00041e2100, 0x00003f0000, 0x00211e0400, 0x0201020100]

/-- Shapes of four columns and six rows. -/
def fourBySix : Array Nat := #[
  0x00000000, 0x00170000, 0x03000300, 0x1f0a1f0a, 0x16371a00, 0x09041200, 0x0a150a10, 0x00030000,
  0x001e2100, 0x211e0000, 0x150e1500, 0x041f0400, 0x20100000, 0x04040400, 0x00100000, 0x18040300,
  0x0e150e00, 0x121f1000, 0x12191600, 0x11150b00, 0x07041f00, 0x17150900, 0x0e150900, 0x19050300,
  0x1a150b00, 0x12150e00, 0x00120000, 0x20120000, 0x040a1100, 0x0a0a0a00, 0x110a0400, 0x01150200,
  0x0e111700, 0x1e051e00, 0x1f150a00, 0x0e110a00, 0x1f110e00, 0x1f151100, 0x1f050100, 0x0e111d00,
  0x1f041f00, 0x111f1100, 0x08100f00, 0x1f041b00, 0x1f101000, 0x1f061f00, 0x1e040f00, 0x0e110e00,
  0x1f050200, 0x0e112e00, 0x1f051a00, 0x12150900, 0x011f0100, 0x1f101f00, 0x0f180f00, 0x1f0c1f00,
  0x1b041b00, 0x031c0300, 0x19151300, 0x001f1100, 0x03041800, 0x111f0000, 0x02010200, 0x20202000,
  0x00010200, 0x0c121e00, 0x1f120c00, 0x0c121200, 0x0c121f00, 0x0c1a1400, 0x041e0500, 0x242a1e00,
  0x1f021c00, 0x141d1000, 0x20201d00, 0x1f041a00, 0x111f1000, 0x1e041e00, 0x1e021c00, 0x0c120c00,
  0x3e0a0400, 0x0c123e00, 0x1e040200, 0x14160a00, 0x020f1200, 0x0e101e00, 0x0e100e00, 0x1e081e00,
  0x120c1200, 0x26281e00, 0x121a1600, 0x041e2100, 0x001f0000, 0x211e0400, 0x02010201]

end Marquee.Glyphs
