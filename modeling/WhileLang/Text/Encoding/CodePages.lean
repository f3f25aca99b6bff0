import WhileLang.Text.Encoding

/-!
# Code pages

Encodings with one byte for a character, under all names that they go by: ISO 8859 and its kin, the
pages of personal computers and of mainframes, KOI8, and others.
-/

namespace WhileLang.Text.Encoding

def codePages : List Encoding := [
  ⟨["ascii", "646", "ansi_x3_4_1968", "ansi_x3_4_1986", "cp367", "csascii", "ibm367",
      "iso646_us", "iso_646_irv_1991", "iso_ir_6", "us", "us_ascii"],
    ["\x00-\x7f"], []⟩,
  ⟨["latin_1", "8859", "cp819", "csisolatin1", "ibm819", "iso8859", "iso8859_1",
      "iso_8859_1", "iso_8859_1_1987", "iso_ir_100", "l1", "latin", "latin1", "cp037", "037",
      "csibm037", "ebcdic_cp_ca", "ebcdic_cp_nl", "ebcdic_cp_us", "ebcdic_cp_wt", "ibm037",
      "ibm039", "cp500", "500", "csibm500", "ebcdic_cp_be", "ebcdic_cp_ch", "ibm500",
      "charmap"],
    ["\x00-ÿ"], []⟩,
  ⟨["iso8859_2", "csisolatin2", "iso_8859_2", "iso_8859_2_1987", "iso_ir_101", "l2", "latin2"],
    ["\x00-\u00a0¤§\u00a8\u00ad°\u00b4\u00b8ÁÂÄÇÉËÍÎÓÔÖ×ÚÜÝßáâäçéëíîóôö÷úüýĂ-ćČ-đĘ-ěĹĺĽľ",
     "Ł-ńŇňŐőŔŕŘ-śŞ-ťŮ-űŹ-ž\u02c7\u02d8\u02d9\u02db\u02dd"], []⟩,
  ⟨["iso8859_3", "csisolatin3", "iso_8859_3", "iso_8859_3_1988", "iso_ir_109", "l3", "latin3"],
    ["\x00-\u00a0£¤§\u00a8\u00ad°²-µ·\u00b8½ÀÁÂÄÇ-ÏÑ-ÔÖ×Ù-Üß-âäç-ïñ-ôö÷ù-üĈ-ċĜ-ġĤ-ħİıĴĵŜ-ş",
     "ŬŭŻż\u02d8\u02d9"], []⟩,
  ⟨["iso8859_4", "csisolatin4", "iso_8859_4", "iso_8859_4_1988", "iso_ir_110", "l4", "latin4"],
    ["\x00-\u00a0¤§\u00a8\u00ad\u00af°\u00b4\u00b8Á-ÆÉËÍÎÔ-ØÚÛÜßá-æéëíîô-øúûüĀāĄąČčĐ-ēĖ-ęĢ",
     "ģĨ-īĮįĶķĸĻļŅņŊ-ōŖŗŠšŦ-ūŲųŽž\u02c7\u02d9\u02db"], []⟩,
  ⟨["iso8859_5", "csisolatincyrillic", "cyrillic", "iso_8859_5", "iso_8859_5_1988",
      "iso_ir_144"],
    ["\x00-\u00a0§\u00adЁ-ЌЎ-яё-ќўџ№"], []⟩,
  ⟨["iso8859_6", "arabic", "asmo_708", "csisolatinarabic", "ecma_114", "iso_8859_6",
      "iso_8859_6_1987", "iso_ir_127"],
    ["\x00-\u00a0¤\u00ad،\u061b\u061f\u0621-\u063a\u0640-\u0652"], []⟩,
  ⟨["iso8859_7", "csisolatingreek", "ecma_118", "elot_928", "greek", "greek8", "iso_8859_7",
      "iso_8859_7_1987", "iso_ir_126"],
    ["\x00-\u00a0£¦-©«¬\u00ad°-³·»½\u037a\u0384\u0385ΆΈΉΊΌΎ-ΡΣ-ώ―‘’€₯"], []⟩,
  ⟨["iso8859_8", "csisolatinhebrew", "hebrew", "iso_8859_8", "iso_8859_8_1988", "iso_ir_138"],
    ["\x00-\u00a0¢-©«-¹»-¾×÷\u05d0-\u05ea\u200e\u200f‗"], []⟩,
  ⟨["iso8859_9", "csisolatin5", "iso_8859_9", "iso_8859_9_1989", "iso_ir_148", "l5",
      "latin5", "cp1026", "1026", "csibm1026", "ibm1026"],
    ["\x00-ÏÑ-Üß-ïñ-üÿĞğİıŞş"], []⟩,
  ⟨["iso8859_10", "csisolatin6", "iso_8859_10", "iso_8859_10_1992", "iso_ir_157", "l6",
      "latin6"],
    ["\x00-\u00a0§\u00ad°·Á-ÆÉËÍ-ÐÓ-ÖØÚ-ßá-æéëí-ðó-öøú-þĀāĄąČčĐ-ēĖ-ęĢģĨ-īĮįĶķĸĻļŅņŊ-ōŠšŦ-ū",
     "ŲųŽž―"], []⟩,
  ⟨["iso8859_11", "thai", "iso_8859_11", "iso_8859_11_2001"],
    ["\x00-\u00a0ก-\u0e3a฿-๛"], []⟩,
  ⟨["iso8859_13", "iso_8859_13", "l7", "latin7"],
    ["\x00-\u00a0¢£¤¦§©«-®°-³µ¶·¹»-¾ÄÅÆÉÓÕ-ØÜßäåæéóõ-øüĀāĄ-ćČčĒēĖ-ęĢģĪīĮįĶķĻļŁ-ņŌōŖŗŚśŠšŪū",
     "ŲųŹ-ž’“”„"], []⟩,
  ⟨["iso8859_14", "iso_8859_14", "iso_8859_14_1998", "iso_celtic", "iso_ir_199", "l8",
      "latin8"],
    ["\x00-\u00a0£§©\u00ad®¶À-ÏÑ-ÖØ-Ýß-ïñ-öø-ýÿĊċĠġŴ-ŸḂḃḊḋḞḟṀṁṖṗṠṡṪṫẀ-ẅỲỳ"], []⟩,
  ⟨["iso8859_15", "iso_8859_15", "l9", "latin9"],
    ["\x00-£¥§©-³µ¶·¹º»¿-ÿŒœŠšŸŽž€"], []⟩,
  ⟨["iso8859_16", "iso_8859_16", "iso_8859_16_2001", "iso_ir_226", "l10", "latin10"],
    ["\x00-\u00a0§©«\u00ad°±¶·»ÀÁÂÄÆ-ÏÒÓÔÖÙ-Üß-âäæ-ïòóôöù-üÿĂ-ćČčĐđĘęŁ-ńŐ-œŚśŠšŰűŸ-žȘ-ț”„€"], []⟩,
  ⟨["tis_620", "tis620", "tis_620_0", "tis_620_2529_0", "tis_620_2529_1", "iso_ir_166"],
    ["\x00-\u009fก-\u0e3a฿-๛"], []⟩,
  ⟨["cp1250", "1250", "windows_1250"],
    ["\x00-\x7f\u00a0¤¦-©«-®°±\u00b4-\u00b8»ÁÂÄÇÉËÍÎÓÔÖ×ÚÜÝßáâäçéëíîóôö÷úüýĂ-ćČ-đĘ-ěĹĺĽľ",
     "Ł-ńŇňŐőŔŕŘ-śŞ-ťŮ-űŹ-ž\u02c7\u02d8\u02d9\u02db\u02dd–—‘’‚“”„†‡•…‰‹›€™"], []⟩,
  ⟨["cp1251", "1251", "windows_1251"],
    ["\x00-\x7f\u00a0¤¦§©«-®°±µ¶·»Ё-ЌЎ-яё-ќўџҐґ–—‘’‚“”„†‡•…‰‹›€№™"], []⟩,
  ⟨["cp1252", "1252", "windows_1252"],
    ["\x00-\x7f\u00a0-ÿŒœŠšŸŽžƒ\u02c6\u02dc–—‘’‚“”„†‡•…‰‹›€™"], []⟩,
  ⟨["cp1253", "1253", "windows_1253"],
    ["\x00-\x7f\u00a0£-©«-®°-³µ¶·»½ƒ\u0384\u0385ΆΈΉΊΌΎ-ΡΣ-ώ–—―‘’‚“”„†‡•…‰‹›€™"], []⟩,
  ⟨["cp1254", "1254", "windows_1254"],
    ["\x00-\x7f\u00a0-ÏÑ-Üß-ïñ-üÿĞğİıŒœŞ-šŸƒ\u02c6\u02dc–—‘’‚“”„†‡•…‰‹›€™"], []⟩,
  ⟨["cp1255", "1255", "windows_1255"],
    ["\x00-\x7f\u00a0-£¥-©«-¹»-¿×÷ƒ\u02c6\u02dc\u05b0-\u05b9\u05bb-\u05c3\u05d0-\u05ea",
     "\u05f0-\u05f4\u200e\u200f–—‘’‚“”„†‡•…‰‹›₪€™"], []⟩,
  ⟨["cp1256", "1256", "windows_1256"],
    ["\x00-\x7f\u00a0¢-©«-¹»-¾×àâç-ëîïô÷ùûüŒœƒ\u02c6،\u061b\u061f\u0621-\u063a",
     "\u0640-\u0652\u0679\u067e\u0686\u0688\u0691\u0698\u06a9\u06af\u06ba\u06be\u06c1",
     "\u06d2\u200c-\u200f–—‘’‚“”„†‡•…‰‹›€™"], []⟩,
  ⟨["cp1257", "1257", "windows_1257"],
    ["\x00-\x7f\u00a0¢£¤¦-©«-¹»-¾ÄÅÆÉÓÕ-ØÜßäåæéóõ-øüĀāĄ-ćČčĒēĖ-ęĢģĪīĮįĶķĻļŁ-ņŌōŖŗŚśŠšŪūŲų",
     "Ź-ž\u02c7\u02d9\u02db–—‘’‚“”„†‡•…‰‹›€™"], []⟩,
  ⟨["cp1258", "1258", "windows_1258"],
    ["\x00-\x7f\u00a0-ÂÄ-ËÍÎÏÑÓÔÖ-Üß-âä-ëíîïñóôö-üÿĂăĐđŒœŸƒƠơƯư\u02c6\u02dc\u0300\u0301",
     "\u0303\u0309\u0323–—‘’‚“”„†‡•…‰‹›₫€™"], []⟩,
  ⟨["cp874"],
    ["\x00-\x7f\u00a0ก-\u0e3a฿-๛–—‘’“”•…€"], []⟩,
  ⟨["cp437", "437", "cspc8codepage437", "ibm437"],
    ["\x00-\x7f\u00a0-£¥ª«¬°±²µ·º-½¿Ä-ÇÉÑÖÜß-âä-ïñ-ôö÷ù-üÿƒΓΘΣΦΩαδεπστφ\u207f₧∙√∞∩≈≡≤≥⌐⌠⌡─",
     "│┌┐└┘├┤┬┴┼═-╬▀▄█▌▐-▓■"], []⟩,
  ⟨["cp720"],
    ["\x00-\u0081\u0084\u0086\u008d-\u0090\u00a0£¤«°²µ·»àâç-ëîïôùû\u0621-\u063a",
     "\u0640-\u0652\u207f∙√≈≡─│┌┐└┘├┤┬┴┼═-╬▀▄█▌▐-▓■"], []⟩,
  ⟨["cp737"],
    ["\x00-\x7f\u00a0°±²·÷ΆΈΉΊΌΎΏΑ-ΡΣ-ία-ώ\u207f∙√≈≤≥─│┌┐└┘├┤┬┴┼═-╬▀▄█▌▐-▓■"], []⟩,
  ⟨["cp775", "775", "cspc775baltic", "ibm775"],
    ["\x00-\x7f\u00a0¢£¤¦§©«-®°-³µ¶·¹»-¾ÄÅÆÉÓÕ-ØÜßäåæéóõ-øüĀāĄ-ćČčĒēĖ-ęĢģĪīĮįĶķĻļŁ-ņŌōŖŗŚś",
     "ŠšŪūŲųŹ-ž’“”„∙─│┌┐└┘├┤┬┴┼═║╔╗╚╝╠╣╦╩╬▀▄█▌▐-▓■"], []⟩,
  ⟨["cp850", "850", "cspc850multilingual", "ibm850"],
    ["\x00-\x7f\u00a0-ÿıƒ‗─│┌┐└┘├┤┬┴┼═║╔╗╚╝╠╣╦╩╬▀▄█░▒▓■"], []⟩,
  ⟨["cp852", "852", "cspcp852", "ibm852"],
    ["\x00-\x7f\u00a0¤§\u00a8«¬\u00ad°\u00b4\u00b8»ÁÂÄÇÉËÍÎÓÔÖ×ÚÜÝßáâäçéëíîóôö÷úüýĂ-ćČ-đ",
     "Ę-ěĹĺĽľŁ-ńŇňŐőŔŕŘ-śŞ-ťŮ-űŹ-ž\u02c7\u02d8\u02d9\u02db\u02dd─│┌┐└┘├┤┬┴┼═║╔╗╚╝╠╣╦╩╬▀▄█░",
     "▒▓■"], []⟩,
  ⟨["cp855", "855", "csibm855", "ibm855"],
    ["\x00-\x7f\u00a0¤§«\u00ad»Ё-ЌЎ-яё-ќўџ№─│┌┐└┘├┤┬┴┼═║╔╗╚╝╠╣╦╩╬▀▄█░▒▓■"], []⟩,
  ⟨["cp856"],
    ["\x00-\x7f\u00a0¢-©«-¹»-¾×÷\u05d0-\u05ea‗─│┌┐└┘├┤┬┴┼═║╔╗╚╝╠╣╦╩╬▀▄█░▒▓■"], []⟩,
  ⟨["cp857", "857", "csibm857", "ibm857"],
    ["\x00-\x7f\u00a0-ÏÑ-Üß-ïñ-üÿĞğİıŞş─│┌┐└┘├┤┬┴┼═║╔╗╚╝╠╣╦╩╬▀▄█░▒▓■"], []⟩,
  ⟨["cp858", "858", "csibm858", "ibm858"],
    ["\x00-\x7f\u00a0-ÿƒ‗€─│┌┐└┘├┤┬┴┼═║╔╗╚╝╠╣╦╩╬▀▄█░▒▓■"], []⟩,
  ⟨["cp860", "860", "csibm860", "ibm860"],
    ["\x00-\x7f\u00a0-£ª«¬°±²µ·º-½¿-ÃÇ-ÊÌÍÑ-ÕÙÚÜß-ãç-êìíñ-õ÷ùúüΓΘΣΦΩαδεπστφ\u207f₧∙√∞∩≈≡≤≥",
     "⌠⌡─│┌┐└┘├┤┬┴┼═-╬▀▄█▌▐-▓■"], []⟩,
  ⟨["cp861", "861", "cp_is", "csibm861", "ibm861"],
    ["\x00-\x7f\u00a0¡£«¬°±²µ·»¼½¿ÁÄ-ÇÉÍÐÓÖØÚÜ-âä-ëíðóôö÷øú-þƒΓΘΣΦΩαδεπστφ\u207f₧∙√∞∩≈≡≤≥⌐",
     "⌠⌡─│┌┐└┘├┤┬┴┼═-╬▀▄█▌▐-▓■"], []⟩,
  ⟨["cp862", "862", "cspc862latinhebrew", "ibm862"],
    ["\x00-\x7f\u00a0-£¥ª«¬°±²µ·º-½¿Ñßáíñó÷úƒΓΘΣΦΩαδεπστφ\u05d0-\u05ea\u207f₧∙√∞∩≈≡≤≥⌐⌠⌡─│",
     "┌┐└┘├┤┬┴┼═-╬▀▄█▌▐-▓■"], []⟩,
  ⟨["cp863", "863", "csibm863", "ibm863"],
    ["\x00-\x7f\u00a0¢£¤¦§\u00a8«¬\u00af-\u00b8»-¾ÀÂÇ-ËÎÏÔÙÛÜßàâç-ëîïóô÷ù-üƒΓΘΣΦΩαδεπστφ‗",
     "\u207f∙√∞∩≈≡≤≥⌐⌠⌡─│┌┐└┘├┤┬┴┼═-╬▀▄█▌▐-▓■"], []⟩,
  ⟨["cp864", "864", "csibm864", "ibm864"],
    ["\x00-$&-\x7f\u00a0¢£¤¦«¬\u00ad°±·»¼½×÷βφ،\u061b\u061f\u0640\u0651\u0660-٪∙√∞≈─│┌┐└┘├",
     "┤┬┴┼▒■\ufe7d\ufe80-\ufe85\ufe8b\ufe8d\ufe8e\ufe8f\ufe91\ufe93\ufe95\ufe97\ufe99",
     "\ufe9b\ufe9d\ufe9f\ufea1\ufea3\ufea5\ufea7\ufea9\ufeab\ufead\ufeaf\ufeb1\ufeb3\ufeb5",
     "\ufeb7\ufeb9\ufebb\ufebd\ufebf\ufec1\ufec5\ufec9-\ufed1\ufed3\ufed5\ufed7\ufed9",
     "\ufedb\ufedd\ufedf\ufee1\ufee3\ufee5\ufee7\ufee9\ufeeb\ufeec\ufeed\ufeef-\ufef3",
     "\ufef5-\ufef8\ufefb\ufefc"], []⟩,
  ⟨["cp865", "865", "csibm865", "ibm865"],
    ["\x00-\x7f\u00a0¡£¤ª«¬°±²µ·º¼½¿Ä-ÇÉÑÖØÜß-âä-ïñ-ôö-üÿƒΓΘΣΦΩαδεπστφ\u207f₧∙√∞∩≈≡≤≥⌐⌠⌡─│",
     "┌┐└┘├┤┬┴┼═-╬▀▄█▌▐-▓■"], []⟩,
  ⟨["cp866", "866", "csibm866", "ibm866"],
    ["\x00-\x7f\u00a0¤°·ЁЄЇЎА-яёєїў№∙√─│┌┐└┘├┤┬┴┼═-╬▀▄█▌▐-▓■"], []⟩,
  ⟨["cp869", "869", "cp_gr", "csibm869", "ibm869"],
    ["\x00-\x7f\u00a0£¦-©«¬\u00ad°-³·»½\u0384\u0385ΆΈΉΊΌΎ-ΡΣ-ώ―‘’─│┌┐└┘├┤┬┴┼═║╔╗╚╝╠╣╦╩╬▀▄█",
     "░▒▓■"], []⟩,
  ⟨["cp1125", "1125", "ibm1125", "cp866u", "ruscii"],
    ["\x00-\x7f\u00a0¤·ЁЄІЇА-яёєіїҐґ№√─│┌┐└┘├┤┬┴┼═-╬▀▄█▌▐-▓■"], []⟩,
  ⟨["cp1006"],
    ["\x00-\u00a0\u00ad،\u061b\u061f۰-۹\ufb56\ufb58\ufb66\ufb68\ufb7a\ufb7c\ufb84\ufb8a",
     "\ufb8c\ufb92\ufb94\ufb9e\ufba6\ufba8\ufba9\ufbaa\ufbae\ufbb0\ufe7c\ufe7d\ufe80\ufe81",
     "\ufe85\ufe89\ufe8a\ufe8b\ufe8d\ufe8e\ufe8f\ufe91\ufe93\ufe95\ufe97\ufe99\ufe9b\ufe9d",
     "\ufe9f\ufea1\ufea3\ufea5\ufea7\ufea9\ufeab\ufead\ufeaf\ufeb1\ufeb3\ufeb5\ufeb7\ufeb9",
     "\ufebb\ufebd\ufebf\ufec1\ufec5\ufec9-\ufed1\ufed3\ufed5\ufed7\ufed9\ufedb\ufedd",
     "\ufedf\ufee0\ufee1\ufee3\ufee5\ufee7\ufeed\ufef1\ufef2\ufef3"], []⟩,
  ⟨["cp273", "273", "ibm273", "csibm273"],
    ["\x00-®°-ÿ‾"], []⟩,
  ⟨["cp424", "424", "csibm424", "ebcdic_cp_he", "ibm424"],
    ["\x00-\u00a0¢-©«-¹»-¾×÷\u05d0-\u05ea‗"], []⟩,
  ⟨["cp875"],
    ["\x00-\u00a0£¦-©«¬\u00ad°-\u00b4»½\u0385-ΊΌΎ-ΡΣ-ώ―‘’"], []⟩,
  ⟨["cp1140", "1140", "ibm1140"],
    ["\x00-£¥-ÿ€"], []⟩,
  ⟨["koi8_r", "cskoi8r"],
    ["\x00-\x7f\u00a0©°²·÷ЁА-яё∙√≈≤≥⌠⌡─│┌┐└┘├┤┬┴┼═-╬▀▄█▌▐-▓■"], []⟩,
  ⟨["koi8_t"],
    ["\x00-\x7f¤¦§©«-®°±²¶·»ЁА-яёҒғҚқҲҳҶҷӢӣӮӯ–—‘’‚“”„†‡•…‰‹›№™"], []⟩,
  ⟨["koi8_u"],
    ["\x00-\x7f\u00a0©°²·÷ЁЄІЇА-яёєіїҐґ∙√≈≤≥⌠⌡─│┌┐└┘├┤┬┴┼═║╒╔╗-╛╝-╡╣╦-╪╬▀▄█▌▐-▓■"], []⟩,
  ⟨["kz1048", "kz_1048", "rk1048", "strk1048_2002"],
    ["\x00-\x7f\u00a0¤¦§©«-®°±µ¶·»ЁЂЃІЉЊЏ-яёђѓіљњџҒғҚқҢңҮ-ұҺһӘәӨө–—‘’‚“”„†‡•…‰‹›€№™"], []⟩,
  ⟨["ptcp154", "csptcp154", "pt154", "cp154", "cyrillic_asian"],
    ["\x00-\x7f\u00a0§©«¬®°¶·»ЁІЈЎА-яёіјўҒғҖ-ҝҠ-ңҪҫҮ-ҳҶ-һӘәӢӣӨөӮӯ–—‘’“”„•…№"], []⟩,
  ⟨["mac_roman", "macintosh", "macroman"],
    ["\x00-\x7f\u00a0-£¥§-¬®-±\u00b4-\u00b8º»¿-ÏÑ-ÖØ-Üß-ïñ-üÿıŒœŸƒ\u02c6\u02c7",
     "\u02d8-\u02ddΩπ–—‘’‚“”„†‡•…‰‹›⁄€™∂∆∏∑√∞∫≈≠≤≥◊\uf8ffﬁﬂ"], []⟩,
  ⟨["mac_iceland", "maciceland"],
    ["\x00-\x7f\u00a0-£¥§-¬®-±\u00b4-\u00b8º»¿-ÖØ-ÿıŒœŸƒ\u02c6\u02c7\u02d8-\u02ddΩπ–—‘’‚“”",
     "„•…‰⁄€™∂∆∏∑√∞∫≈≠≤≥◊\uf8ff"], []⟩,
  ⟨["mac_turkish", "macturkish"],
    ["\x00-\x7f\u00a0-£¥§-¬®-±\u00b4-\u00b8º»¿-ÏÑ-ÖØ-Üß-ïñ-üÿĞğİıŒœŞşŸƒ\u02c6\u02c7",
     "\u02d8-\u02ddΩπ–—‘’‚“”„†‡•…‰™∂∆∏∑√∞∫≈≠≤≥◊\uf8a0\uf8ff"], []⟩,
  ⟨["mac_latin2", "maccentraleurope", "mac_centeuro", "maclatin2"],
    ["\x00-\x7f\u00a0£§\u00a8©«¬®°¶»ÁÄÉÍÓ-ÖÚÜÝßáäéíó-÷úüýĀāĄ-ćČ-ďĒēĖ-ěĢģĪīĮįĶķĹ-ľŁ-ňŌōŐő",
     "Ŕ-śŠšŤťŪūŮ-ųŹ-ž\u02c7–—‘’‚“”„†•…‹›™∂∆∑√≠≤≥◊"], []⟩,
  ⟨["mac_croatian"],
    ["\x00-\x7f\u00a0-£§-¬®-±\u00b4-\u00b8º»¿-ÏÑ-ÖØ-Üß-ïñ-üĆćČčĐđıŒœŠšŽžƒ\u02c6\u02c7",
     "\u02da\u02dcΩπ–—‘’‚“”„†•…‰‹›⁄€™∂∆∏∑√∞∫≈≠≤≥◊\uf8ff"], []⟩,
  ⟨["mac_romanian"],
    ["\x00-\x7f\u00a0-£¥§-¬®-±\u00b4-\u00b8º»¿-ÅÇ-ÏÑ-ÖÙ-Üß-åç-ïñ-÷ù-üÿĂăıŒœŸƒȘ-ț\u02c6",
     "\u02c7\u02d8-\u02ddΩπ–—‘’‚“”„†‡•…‰‹›⁄€™∂∆∏∑√∞∫≈≠≤≥◊\uf8ff"], []⟩,
  ⟨["mac_cyrillic", "maccyrillic"],
    ["\x00-\x7f\u00a0£§©«¬®°±µ¶»÷ƒЁ-ЌЎ-яё-ќўџҐґ–—‘’“”„†•…€№™∆√∞≈≠≤≥"], []⟩,
  ⟨["mac_greek", "macgreek"],
    ["\x00-\x7f\u00a0£¥-©«-®°-³·¹»½ÄÉÖÜßàâäç-ëîïôö÷ùûüœ\u0384\u0385ΆΈΉΊΌΎ-ΡΣ-ώ–―‘’“”†•…‰€™",
     "≈≠≤≥"], []⟩,
  ⟨["mac_arabic"],
    ["\x00-\x7f\u00a0«»ÄÇÉÑÖÜàáâäç-ëíîïñóôö÷ù-ü،\u061b\u061f\u0621-\u063a\u0640-\u0652",
     "\u0660-٪\u0679\u067e\u0686\u0688\u0691\u0698\u06a4\u06af\u06ba\u06d2\u06d5…❊"], []⟩,
  ⟨["mac_farsi"],
    ["\x00-\x7f\u00a0«»ÄÇÉÑÖÜàáâäç-ëíîïñóôö÷ù-ü،\u061b\u061f\u0621-\u063a\u0640-\u0652٪",
     "\u0679\u067e\u0686\u0688\u0691\u0698\u06a4\u06af\u06ba\u06d2\u06d5۰-۹…❊"], []⟩,
  ⟨["hp_roman8", "roman8", "r8", "cp1051", "ibm1051"],
    ["\x00-¥§\u00a8ª«\u00af°±\u00b4-·º-ÖØ-öø-ÿŠšŸƒ\u02c6\u02cb\u02dc—₤■"], []⟩,
  ⟨["palmos"],
    ["\x00-\x7f\u0081\u009b\u009d\u009e\u00a0-ÿŒœŠšŸƒ\u02c6\u02dc–—‘’‚“”„†‡•…‰‹€™♠♣♥♦"], []⟩]

end WhileLang.Text.Encoding
